-- Memory and swap of the host in kilobytes, the percentages in use, and sizes
-- as short text.
import ProcessMonitor.Host.Ticks
import ProcessMonitor.Number.Fixed

namespace ProcessMonitor

structure Memory where
  total : Nat
  free : Nat
  /-- What new work could get, where the kernel tells it. -/
  available : Option Nat
  buffers : Nat
  cached : Nat
  swapTotal : Nat
  swapFree : Nat
deriving DecidableEq, Repr

namespace Memory

def none : Memory := ⟨0, 0, Option.none, 0, 0, 0, 0⟩

/-- What new work could get. Free memory, buffers and cache stand in for it
where the kernel does not tell. -/
def availableKb (m : Memory) : Nat := m.available.getD (m.free + m.buffers + m.cached)

def used (m : Memory) : Nat := m.total - m.availableKb

def swapUsed (m : Memory) : Nat := m.swapTotal - m.swapFree

/-- A part of a whole as a percentage in `[0, 100]`; 0 without a whole. -/
def sharePercent (part whole : Nat) : Double :=
  if whole == 0 then zeroPercent
  else (Double.ofNat part / Double.ofNat whole * hundred).clamp zeroPercent hundred

def usedPercent (m : Memory) : Double := sharePercent m.used m.total

def swapPercent (m : Memory) : Double := sharePercent m.swapUsed m.swapTotal

end Memory

/-- The resident memory of a process in hundredths of all memory; 0 when that
is unknown. -/
def residentPercent (resident total : Nat) : Double :=
  if total == 0 then zeroPercent else Double.ofNat resident / (Double.ofNat total / hundred)

/-! ## Sizes as text -/

def mebibyte : Nat := 1024

def gibibyte : Nat := 1024 * mebibyte

def tebibyte : Nat := 1024 * gibibyte

/-- A count of kilobytes in units of `unit` kilobytes, with one decimal. -/
def inUnit (kb unit : Nat) (letter : String) : String :=
  (Double.ofNat kb / Double.ofNat unit).fixed 1 ++ letter

/-- A count of kilobytes in the largest unit that it reaches. -/
def formatKb (kb : Nat) : String :=
  if kb ≥ tebibyte then inUnit kb tebibyte "T"
  else if kb ≥ gibibyte then inUnit kb gibibyte "G"
  else if kb ≥ mebibyte then inUnit kb mebibyte "M"
  else toString kb ++ "K"

end ProcessMonitor

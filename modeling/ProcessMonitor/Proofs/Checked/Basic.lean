-- Steps that can go astray. A number never falls below zero by itself, a list never
-- answers for a place that it does not have, and a text is never cut inside a
-- character: here each of these is an error of its own.
import ProcessMonitor.Text.Width

namespace ProcessMonitor

/-- Why a step went astray. -/
inductive Stray where
  /-- More was taken away than there was. -/
  | belowZero (whole part : Nat)
  /-- A number was divided by zero. -/
  | noQuotient (n : Nat)
  | noPlace (place size : Nat)
  | noPart (first last size : Nat)
  /-- A text was cut inside a character or behind its end. -/
  | noCut (byte : Nat)
deriving DecidableEq, Repr

abbrev Checked (α : Type) := Except Stray α

namespace Checked

/-! ## Numbers -/

def minus (whole part : Nat) : Checked Nat :=
  if part ≤ whole then pure (whole - part) else throw (.belowZero whole part)

def remainder (n size : Nat) : Checked Nat :=
  if size = 0 then throw (.noQuotient n) else pure (n % size)

/-- How many parts of this size it takes. -/
def divideUp (n size : Nat) : Checked Nat := do
  let rest ← remainder n size
  pure (if rest > 0 then n / size + 1 else n / size)

/-! ## Lists -/

section Lists

variable {α β : Type}

/-- What stands at a place of a list. -/
def item (items : List α) (place : Nat) : Checked α :=
  match items[place]? with
  | some a => pure a
  | none => throw (.noPlace place items.length)

/-- The part of a list from `first` up to `last`. -/
def part (items : List α) (first last : Nat) : Checked (List α) :=
  if first ≤ last ∧ last ≤ items.length then pure ((items.take last).drop first)
  else throw (.noPart first last items.length)

/-- The part of a list from `first` on. -/
def partFrom (items : List α) (first : Nat) : Checked (List α) := part items first items.length

/-- What all parts draw, one after the other. -/
def drawAll (parts : List α) (draw : α → Checked (List β)) : Checked (List β) := do
  let drawn ← parts.mapM draw
  pure drawn.flatten

end Lists

/-! ## Texts by their bytes -/

/-- The bytes of a text. -/
def bytes : List Char → Nat
  | [] => 0
  | c :: rest => c.utf8Size + bytes rest

/-- The characters of a text, each with the byte where it begins. -/
def placed : Nat → List Char → List (Nat × Char)
  | _, [] => []
  | byte, c :: rest => (byte, c) :: placed (byte + c.utf8Size) rest

/-- A text cut behind its first `byte` bytes. -/
def cutAt : Nat → List Char → Checked (List Char × List Char)
  | byte, [] => if byte = 0 then pure ([], []) else throw (.noCut byte)
  | byte, c :: rest =>
    if byte = 0 then pure ([], c :: rest)
    else if c.utf8Size ≤ byte then do
      let (front, back) ← cutAt (byte - c.utf8Size) rest
      pure (c :: front, back)
    else throw (.noCut byte)

/-! ## Steps that do not go astray -/

section Steps

variable {α β : Type}

@[simp] theorem minus_of_le {whole part : Nat} (h : part ≤ whole) :
    minus whole part = pure (whole - part) := if_pos h

@[simp] theorem remainder_of_pos {n size : Nat} (h : 0 < size) :
    remainder n size = pure (n % size) := if_neg (Nat.ne_of_gt h)

@[simp] theorem divideUp_of_pos {n size : Nat} (h : 0 < size) :
    divideUp n size = pure ((n + size - 1) / size) := by
  rw [divideUp, remainder_of_pos h, pure_bind]
  have hsplit := Nat.div_add_mod n size
  have hlt := Nat.mod_lt n h
  generalize n / size = quotient at hsplit
  generalize n % size = rest at hsplit hlt
  rw [Nat.mul_comm] at hsplit
  congr 1
  refine (Nat.div_eq_of_lt_le ?_ ?_).symm
  · split
    · rw [Nat.add_mul]
      omega
    · omega
  · split <;> simp only [Nat.add_mul] <;> omega

theorem item_of_getElem? {items : List α} {place : Nat} {a : α} (h : items[place]? = some a) :
    item items place = pure a := by
  rw [item, h]

theorem part_of_le {items : List α} {first last : Nat} (hfirst : first ≤ last)
    (hlast : last ≤ items.length) : part items first last = pure ((items.take last).drop first) :=
  if_pos ⟨hfirst, hlast⟩

theorem partFrom_of_le {items : List α} {first : Nat} (h : first ≤ items.length) :
    partFrom items first = pure (items.drop first) := by
  rw [partFrom, part_of_le h (Nat.le_refl _), List.take_length]

/-- A choice between two values. -/
@[simp] theorem ite_pure (c : Prop) [Decidable c] (a b : α) :
    (if c then pure a else pure b : Checked α) = pure (if c then a else b) := by
  split <;> rfl

/-- The steps of a list are safe when each of them is. -/
theorem mapM_eq_pure {items : List α} {step : α → Checked β} {plain : α → β}
    (h : ∀ a ∈ items, step a = pure (plain a)) : items.mapM step = pure (items.map plain) := by
  induction items with
  | nil => rfl
  | cons a rest ih =>
    obtain ⟨ha, hrest⟩ := List.forall_mem_cons.mp h
    rw [List.mapM_cons, ha, pure_bind, ih hrest, pure_bind, List.map_cons]

theorem drawAll_eq_pure {parts : List α} {draw : α → Checked (List β)} {plain : α → List β}
    (h : ∀ a ∈ parts, draw a = pure (plain a)) : drawAll parts draw = pure (parts.flatMap plain) := by
  rw [drawAll, mapM_eq_pure h, pure_bind, List.flatMap_def]

theorem cutAt_zero (text : List Char) : cutAt 0 text = pure ([], text) := by
  cases text <;> rfl

/-- A text may be cut behind any of its characters. -/
theorem cutAt_bytes (front back : List Char) :
    cutAt (bytes front) (front ++ back) = pure (front, back) := by
  induction front with
  | nil => exact cutAt_zero back
  | cons c rest ih =>
    have hpos := c.utf8Size_pos
    have hrest : bytes (c :: rest) - c.utf8Size = bytes rest := Nat.add_sub_cancel_left _ _
    have hfits : c.utf8Size ≤ bytes (c :: rest) := Nat.le_add_right _ _
    rw [List.cons_append, cutAt, if_neg (by omega), if_pos hfits, hrest, ih, pure_bind]

theorem bytes_append (front back : List Char) : bytes (front ++ back) = bytes front + bytes back := by
  induction front with
  | nil => simp [bytes]
  | cons c rest ih => simp [bytes, ih, Nat.add_assoc]

theorem placed_append (byte : Nat) (front back : List Char) :
    placed byte (front ++ back) = placed byte front ++ placed (byte + bytes front) back := by
  induction front generalizing byte with
  | nil => rfl
  | cons c rest ih => simp [placed, bytes, ih, Nat.add_assoc]

end Steps

end Checked

end ProcessMonitor

-- The laws of requests to the kernel. A request has a plan of calls about one process. They are
-- made in order until one fails, and what the kernel refused that one with decides the error.
-- Nothing is asked of the kernel for a pid that would address a group.
import ProcessMonitor.Process.Control

namespace ProcessMonitor

/-! ## Refusals -/

theorem Errno.known_of_isNamed {e : Errno} (h : e.isNamed) : e.known = e := if_pos h

theorem Errno.known_eq_unknown {e : Errno} : e.known = unknown ↔ e.isNamed = false := by
  cases h : e.isNamed with
  | false => exact iff_of_true (if_neg (by simp [h])) rfl
  | true =>
    rw [known_of_isNamed h]
    refine iff_of_false ?_ Bool.noConfusion
    rintro rfl
    exact absurd h (by decide)

/-- The error that a refused call is told as. It tells a process that is gone and one that the
caller may not touch from all else, which is told with the call and the refusal. -/
inductive ToldAs (call : KernelCall) (pid : Int) : Errno → ControlError → Prop where
  | notFound : ToldAs call pid .noSuchProcess (.notFound pid)
  | notPermitted : ToldAs call pid .notPermitted (.permissionDenied pid)
  | accessDenied : ToldAs call pid .accessDenied (.permissionDenied pid)
  | refused (errno : Errno) (hgone : errno ≠ .noSuchProcess) (hpermitted : errno ≠ .notPermitted)
      (hdenied : errno ≠ .accessDenied) : ToldAs call pid errno (.refused call pid errno)

theorem toldAs_iff {call : KernelCall} {pid : Int} {errno : Errno} {error : ControlError} :
    ToldAs call pid errno error ↔ error = .ofErrno call pid errno := by
  constructor
  · intro h
    cases h with
    | notFound => rfl
    | notPermitted => rfl
    | accessDenied => rfl
    | refused errno hgone hpermitted hdenied => simp [ControlError.ofErrno, *]
  · rintro rfl
    by_cases hgone : errno = .noSuchProcess
    · subst hgone
      exact .notFound
    by_cases hpermitted : errno = .notPermitted
    · subst hpermitted
      exact .notPermitted
    by_cases hdenied : errno = .accessDenied
    · subst hdenied
      exact .accessDenied
    have hother : ControlError.ofErrno call pid errno = .refused call pid errno := by
      simp [ControlError.ofErrno, *]
    rw [hother]
    exact .refused errno hgone hpermitted hdenied

/-! ## Calls -/

/-- Which call it is. -/
def IssuedCall.kind : IssuedCall → KernelCall
  | .kill _ _ => .kill
  | .getPriority _ => .getPriority
  | .setPriority _ _ => .setPriority

/-- True for a call that may change something. -/
def IssuedCall.changes (call : IssuedCall) : Bool := call.kind != .getPriority

namespace Kernel

/-- The call fails. A nice value that was read may be any number, so this call fails only by a
refusal that it names; the others fail by what they return. -/
def Fails (kernel : Kernel) : IssuedCall → Prop
  | .kill pid signal => (kernel.kill pid signal).value = -1
  | .getPriority pid => (kernel.getPriority pid).errno.any Errno.isNamed
  | .setPriority pid nice => (kernel.setPriority pid nice).value ≠ 0

/-- The refusal that stands after a call: the one that it names, or else the one whose number was
kept before. -/
def refusalAfter (kernel : Kernel) (kept : Errno) (call : IssuedCall) : Errno :=
  ((kernel.answer call).errno.getD kept).known

/-- What a request about a process leaves in a thread that kept a number before: calls, the first
ones of a plan, and an answer, the value when all goes well. -/
structure Carried {α : Type} (kernel : Kernel) (kept : Errno) (pid : Int) (plan : List IssuedCall)
    (value : α) (handled : Handled α) : Prop where
  /-- No group is ever addressed. -/
  guarded : pid ≤ 0 →
    handled.answer.result = .error (.invalidTarget pid) ∧ handled.calls = []
  /-- No call is made that is not due, -/
  planned : handled.calls <+: plan
  /-- none after one that failed, -/
  stops : handled.calls.Pairwise fun earlier _ => ¬ kernel.Fails earlier
  /-- and none is left out while all goes well. -/
  goesOn : 0 < pid → (∀ call ∈ handled.calls, ¬ kernel.Fails call) → handled.calls = plan
  ok : ∀ other, handled.answer.result = .ok other ↔
    0 < pid ∧ other = value ∧ ∀ call ∈ plan, ¬ kernel.Fails call
  /-- The call that failed is the error. -/
  error : 0 < pid → ∀ error, handled.answer.result = .error error ↔
    ∃ call ∈ handled.calls, kernel.Fails call ∧
      ToldAs call.kind pid (kernel.refusalAfter kept call) error

section Carried

variable {α : Type} {kernel : Kernel} {kept : Errno} {pid : Int} {value : α}

theorem carried_nothing (h : pid ≤ 0) (plan : List IssuedCall) :
    Carried kernel kept pid plan value ⟨⟨.error (.invalidTarget pid), []⟩, []⟩ where
  guarded _ := ⟨rfl, rfl⟩
  planned := List.nil_prefix
  stops := .nil
  goesOn hpos := absurd hpos (by omega)
  ok other := ⟨nofun, fun hok => absurd hok.1 (by omega)⟩
  error hpos := absurd hpos (by omega)

/-- One call failed, after some that did not. -/
theorem carried_failed (h : 0 < pid) {before : List IssuedCall} {call : IssuedCall}
    (hbefore : ∀ earlier ∈ before, ¬ kernel.Fails earlier) (hcall : kernel.Fails call)
    (rest : List IssuedCall) :
    Carried kernel kept pid (before ++ call :: rest) value
      ⟨⟨.error (.ofErrno call.kind pid (kernel.refusalAfter kept call)), []⟩, before ++ [call]⟩ where
  guarded hpid := absurd hpid (by omega)
  planned := ⟨rest, (List.append_cons before call rest).symm⟩
  stops := by
    rw [List.pairwise_append]
    refine ⟨?_, List.pairwise_singleton _ _, fun earlier hearlier _ _ => hbefore earlier hearlier⟩
    exact List.pairwise_of_forall_mem_list fun earlier hearlier _ _ => hbefore earlier hearlier
  goesOn _ hall := absurd hcall (hall call (by simp))
  ok other := ⟨nofun, fun hok => absurd hcall (hok.2.2 call (by simp))⟩
  error _ error := by
    constructor
    · intro herror
      cases herror
      exact ⟨call, by simp, hcall, toldAs_iff.mpr rfl⟩
    · rintro ⟨failed, hmem, hfailed, htold⟩
      rw [List.mem_append, List.mem_singleton] at hmem
      rcases hmem with hmem | rfl
      · exact absurd hfailed (hbefore failed hmem)
      · rw [toldAs_iff.mp htold]

/-- No call of the plan failed. -/
theorem carried_through (h : 0 < pid) {plan : List IssuedCall}
    (hplan : ∀ call ∈ plan, ¬ kernel.Fails call) (reports : List Log.Entry) :
    Carried kernel kept pid plan value ⟨⟨.ok value, reports⟩, plan⟩ where
  guarded hpid := absurd hpid (by omega)
  planned := List.prefix_refl plan
  stops := List.pairwise_of_forall_mem_list fun call hcall _ _ => hplan call hcall
  goesOn _ _ := rfl
  ok other := ⟨fun hok => ⟨h, by cases hok; rfl, hplan⟩, fun hok => by rw [hok.2.1]⟩
  error _ error := ⟨nofun, fun ⟨call, hcall, hfails, _⟩ => absurd hfails (hplan call hcall)⟩

end Carried

/-- The last call of a plan is made exactly when those before it did not fail. -/
theorem Carried.mem_calls_iff {α : Type} {kernel : Kernel} {kept : Errno} {pid : Int} {value : α}
    {handled : Handled α} {before : List IssuedCall} {last : IssuedCall}
    (h : Carried kernel kept pid (before ++ [last]) value handled) (hlast : last ∉ before) :
    last ∈ handled.calls ↔ 0 < pid ∧ ∀ earlier ∈ before, ¬ kernel.Fails earlier := by
  rcases List.prefix_concat_iff.mp h.planned with hall | hsome
  · have hmem : last ∈ handled.calls := by
      rw [hall]
      exact List.mem_concat_self
    have hpos : 0 < pid := by
      rcases Int.lt_or_le 0 pid with hpos | hpid
      · exact hpos
      · rw [(h.guarded hpid).2] at hmem
        exact absurd hmem List.not_mem_nil
    have hstops := h.stops
    rw [hall, List.pairwise_append] at hstops
    refine iff_of_true hmem ⟨hpos, ?_⟩
    intro earlier hearlier
    exact hstops.2.2 earlier hearlier last (List.mem_singleton_self last)
  · have hnot : last ∉ handled.calls := fun hmem => hlast (hsome.subset hmem)
    refine iff_of_false hnot ?_
    rintro ⟨hpos, hbefore⟩
    have hall := h.goesOn hpos fun call hcall => hbefore call (hsome.subset hcall)
    apply hnot
    rw [hall]
    exact List.mem_concat_self

/-! ## The requests -/

/-- The limits of the numbers that the kernel takes leave the exact difference as it is. -/
theorem targetNice_eq (current delta : Int) :
    targetNice current delta = max (-20) (min (current - delta) 19) := by
  unfold targetNice niceMin niceMax lastNice
  dsimp only
  omega

/-- What stands after a call depends only on what is kept before it. -/
theorem refusal_after (kernel : Kernel) (thread : Thread) (call : IssuedCall) :
    (thread.after call (kernel.answer call)).refusal = kernel.refusalAfter thread.errno call := rfl

theorem refusalAfter_congr {kernel : Kernel} {kept other : Errno} (h : kept.known = other.known)
    (call : IssuedCall) : kernel.refusalAfter kept call = kernel.refusalAfter other call := by
  unfold refusalAfter
  cases (kernel.answer call).errno with
  | none => exact h
  | some errno => rfl

/-- Where no number is kept, reading a nice value fails exactly when a refusal stands after it. -/
theorem fails_getPriority_iff (kernel : Kernel) (pid : Int) :
    kernel.Fails (.getPriority pid) ↔
      kernel.refusalAfter .unknown (.getPriority pid) ≠ .unknown := by
  have hfails : kernel.Fails (.getPriority pid) ↔
      (kernel.getPriority pid).errno.any Errno.isNamed := Iff.rfl
  rw [hfails, refusalAfter, answer, Ne, Errno.known_eq_unknown, Bool.not_eq_false]
  cases (kernel.getPriority pid).errno with
  | none => decide
  | some errno => rfl

theorem carried_terminate (kernel : Kernel) (kept : Errno) (pid : Int) :
    Carried kernel kept pid [.kill pid terminateSignal] () (kernel.terminate pid kept) := by
  unfold terminate
  split
  · rename_i hpid
    exact carried_nothing hpid _
  rename_i hpid
  have hpos : 0 < pid := Int.not_le.mp hpid
  dsimp only
  split
  · rename_i hfails
    have hkill : kernel.Fails (.kill pid terminateSignal) := hfails
    exact carried_failed hpos (List.forall_mem_nil _) hkill []
  · rename_i hsent
    have hkill : ¬ kernel.Fails (.kill pid terminateSignal) := hsent
    exact carried_through hpos (List.forall_mem_singleton.mpr hkill) _

/-- The number that is kept is forgotten, and a call that did not fail keeps none. -/
theorem carried_renice (kernel : Kernel) (kept : Errno) (pid delta : Int) :
    let wanted := targetNice (kernel.getPriority pid).value delta
    Carried kernel .unknown pid [.getPriority pid, .setPriority pid wanted] wanted
      (kernel.renice pid delta kept) := by
  intro wanted
  unfold renice
  split
  · rename_i hpid
    exact carried_nothing hpid _
  rename_i hpid
  have hpos : 0 < pid := Int.not_le.mp hpid
  dsimp only
  rw [refusal_after]
  split
  · rename_i hrefused
    have hget : kernel.Fails (.getPriority pid) := (fails_getPriority_iff kernel pid).mpr hrefused
    exact carried_failed hpos (List.forall_mem_nil _) hget _
  rename_i hfound
  have hread : ((Thread.clear ⟨kept, []⟩).after (.getPriority pid)
      (kernel.answer (.getPriority pid))).errno.known = Errno.unknown.known :=
    Decidable.not_not.mp hfound
  have hget : ¬ kernel.Fails (.getPriority pid) := by
    rw [fails_getPriority_iff]
    exact hfound
  have hbefore : ∀ call ∈ [IssuedCall.getPriority pid], ¬ kernel.Fails call :=
    List.forall_mem_singleton.mpr hget
  split
  · rename_i hfails
    have hset : kernel.Fails (.setPriority pid wanted) := hfails
    -- reading may have left a number that has no name, which tells no more than none
    rw [refusal_after, refusalAfter_congr hread]
    exact carried_failed hpos hbefore hset []
  · rename_i hdone
    have hset : ¬ kernel.Fails (.setPriority pid wanted) := hdone
    refine carried_through hpos ?_ _
    rw [List.forall_mem_cons, List.forall_mem_singleton]
    exact ⟨hget, hset⟩

/-- A nice value is set for no process but the one that was read, and for that one to no value but
the one that is wanted. -/
theorem setPriority_mem_renice (kernel : Kernel) (kept : Errno) (pid delta other nice : Int) :
    .setPriority other nice ∈ (kernel.renice pid delta kept).calls ↔
      0 < pid ∧ ¬ kernel.Fails (.getPriority pid) ∧ other = pid ∧
        nice = targetNice (kernel.getPriority pid).value delta := by
  have hcarried := carried_renice kernel kept pid delta
  have hlast : .setPriority pid (targetNice (kernel.getPriority pid).value delta) ∈
      (kernel.renice pid delta kept).calls ↔
        0 < pid ∧ ∀ call ∈ [IssuedCall.getPriority pid], ¬ kernel.Fails call :=
    hcarried.mem_calls_iff (by simp)
  rw [List.forall_mem_singleton] at hlast
  constructor
  · intro hmem
    have hplan := hcarried.planned.subset hmem
    simp only [List.mem_cons, reduceCtorEq, IssuedCall.setPriority.injEq, List.not_mem_nil,
      or_false, false_or] at hplan
    obtain ⟨rfl, rfl⟩ := hplan
    exact ⟨(hlast.mp hmem).1, (hlast.mp hmem).2, rfl, rfl⟩
  · rintro ⟨hpos, hget, rfl, rfl⟩
    exact hlast.mpr ⟨hpos, hget⟩

/-- What could not be read is not changed. -/
theorem changes_of_fails_getPriority {kernel : Kernel} {pid : Int}
    (h : kernel.Fails (.getPriority pid)) (kept : Errno) (delta : Int) :
    ∀ call ∈ (kernel.renice pid delta kept).calls, call.changes = false := by
  intro call hcall
  have hplan := (carried_renice kernel kept pid delta).planned.subset hcall
  rw [List.mem_cons, List.mem_singleton] at hplan
  rcases hplan with rfl | rfl
  · rfl
  · exact absurd h ((setPriority_mem_renice kernel kept pid delta pid _).mp hcall).2.1

/-! ## The laws -/

/-- Whatever the kernel answers and whatever number is kept from calls before: zero and negative
pids are refused without a call. A request to end a process is one signal. A change of priority
reads the nice value and, when that did not fail, sets once the exact difference, kept in the range
from -20 to 19; it succeeds with that value exactly when it was set, and a nice value that could
not be read leaves all as it was. A call that fails is the error of its request, told by what it
was refused with and always with the pid that was asked for. -/
theorem a_request_goes_as_far_as_its_calls (kernel : Kernel) (kept : Errno) (pid delta : Int) :
    let wanted := max (-20) (min ((kernel.getPriority pid).value - delta) 19)
    let reniced := kernel.renice pid delta kept
    Carried kernel kept pid [.kill pid terminateSignal] () (kernel.terminate pid kept) ∧
      Carried kernel .unknown pid [.getPriority pid, .setPriority pid wanted] wanted reniced ∧
      reniced.calls.countP (fun call => call.kind == .setPriority) ≤ 1 ∧
      (∀ other nice, .setPriority other nice ∈ reniced.calls ↔
        0 < pid ∧ ¬ kernel.Fails (.getPriority pid) ∧ other = pid ∧ nice = wanted) ∧
      (∀ nice, reniced.answer.result = .ok nice ↔
        .setPriority pid nice ∈ reniced.calls ∧ ¬ kernel.Fails (.setPriority pid nice)) ∧
      (kernel.Fails (.getPriority pid) → ∀ call ∈ reniced.calls, call.changes = false) := by
  intro wanted reniced
  have hwanted : targetNice (kernel.getPriority pid).value delta = wanted := targetNice_eq _ _
  have hrenice := carried_renice kernel kept pid delta
  have hset := setPriority_mem_renice kernel kept pid delta
  rw [hwanted] at hrenice
  rw [hwanted] at hset
  refine ⟨carried_terminate kernel kept pid, hrenice, ?_, hset, ?_, ?_⟩
  · exact hrenice.planned.countP_le
  · intro nice
    rw [hrenice.ok, hset, List.forall_mem_cons, List.forall_mem_singleton]
    constructor
    · rintro ⟨hpos, rfl, hget, hdone⟩
      exact ⟨⟨hpos, hget, rfl, rfl⟩, hdone⟩
    · rintro ⟨⟨hpos, hget, _, rfl⟩, hdone⟩
      exact ⟨hpos, rfl, hget, hdone⟩
  · intro hget
    exact changes_of_fails_getPriority hget kept delta

/-- The nice value -1 is read while the number of a refusal is kept from before. -/
example :
    let kernel : Kernel := ⟨fun _ _ => ⟨0, none⟩, fun _ => ⟨-1, none⟩, fun _ _ => ⟨0, none⟩⟩
    (kernel.renice 7 1 .noSuchProcess).answer.result = .ok (-2) := rfl

end ProcessMonitor.Kernel

-- The laws of the names of users. Whatever the database of users answers at each request, a uid is
-- looked up once at most, and the first answer for it stands from then on.
import ProcessMonitor.Proc.Owners

namespace ProcessMonitor.Proc

/-- The name that an answer gives to a uid: the number itself, when there is no other. -/
def UserAnswer.nameOf (uid : Nat) : UserAnswer → String
  | .named name => name
  | .unnamed => toString uid
  | .failed _ => toString uid

/-- The name that a uid has so far. -/
def Owners.known (owners : Owners) (uid : Nat) : Option String := owners.names[uid]?

/-- A uid that needs a name, and what the database would answer at the time. -/
abbrev Request := Nat × UserAnswer

/-- The name of a uid after requests: the one known before, or the one of the first answer. -/
def nameAfter (owners : Owners) (requests : List Request) (uid : Nat) : Option String :=
  (owners.known uid).or ((requests.lookup uid).map (UserAnswer.nameOf uid))

/-- What requests leave: the names of the first answers, and lookups of the uids that had no name,
each one once. -/
structure Answered (owners : Owners) (requests : List Request) (after : Owners)
    (asked : List Nat) : Prop where
  names : ∀ uid, after.known uid = nameAfter owners requests uid
  once : asked.Nodup
  mem_asked : ∀ uid, uid ∈ asked ↔ owners.known uid = none ∧ uid ∈ requests.map Prod.fst

theorem lookup_eq_none_iff_not_mem {requests : List Request} {uid : Nat} :
    requests.lookup uid = none ↔ uid ∉ requests.map Prod.fst := by
  rw [List.lookup_eq_none_iff]
  simp only [List.mem_map, not_exists, not_and, bne_iff_ne, ne_eq]
  constructor
  · rintro h request hrequest rfl
    exact h request hrequest rfl
  · rintro h request hrequest rfl
    exact h request hrequest rfl

/-- One request after another. -/
theorem Answered.append {owners between after : Owners} {first second : List Request}
    {asked askedNext : List Nat} (h : Answered owners first between asked)
    (hnext : Answered between second after askedNext) :
    Answered owners (first ++ second) after (asked ++ askedNext) := by
  have hunknown (uid : Nat) : between.known uid = none ↔
      owners.known uid = none ∧ uid ∉ first.map Prod.fst := by
    rw [h.names, nameAfter, Option.or_eq_none_iff, Option.map_eq_none_iff,
      lookup_eq_none_iff_not_mem]
  refine ⟨?_, ?_, ?_⟩
  · intro uid
    rw [hnext.names, nameAfter, h.names, nameAfter, nameAfter, List.lookup_append, Option.map_or,
      Option.or_assoc]
  · rw [List.nodup_append]
    refine ⟨h.once, hnext.once, ?_⟩
    rintro uid hasked other hother rfl
    have hknown := ((hunknown uid).mp ((hnext.mem_asked uid).mp hother).1).2
    exact hknown ((h.mem_asked uid).mp hasked).2
  · intro uid
    rw [List.mem_append, h.mem_asked, hnext.mem_asked, hunknown, List.map_append, List.mem_append]
    by_cases hfirst : uid ∈ first.map Prod.fst
    · simp [hfirst]
    · simp [hfirst]

/-- Names that are known stay. -/
def Owners.StayIn (owners later : Owners) : Prop :=
  ∀ uid name, owners.known uid = some name → later.known uid = some name

theorem Owners.StayIn.trans {owners between later : Owners} (h : owners.StayIn between)
    (hnext : between.StayIn later) : owners.StayIn later :=
  fun uid name hname => hnext uid name (h uid name hname)

/-! ## One request -/

section NameFor

variable {owners : Owners} {uid : Nat} (users : Nat → UserAnswer)

end NameFor

end ProcessMonitor.Proc

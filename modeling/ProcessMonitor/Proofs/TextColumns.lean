-- The laws of text in columns: a text that is fitted takes exactly its room, and no
-- cut or pad puts a character into a text that was not there, but for blanks and
-- dots. So what is made of texts has no other control characters than they have.
import ProcessMonitor.Host.Memory
import ProcessMonitor.Text.Fit

namespace ProcessMonitor.Text

/-! ## Columns -/

theorem width_append (first second : List Char) :
    width (first ++ second) = width first + width second := by
  induction first with
  | nil => simp [width]
  | cons c rest ih => simp [width, ih, Nat.add_assoc]

@[simp] theorem displayWidth_append (first second : String) :
    displayWidth (first ++ second) = displayWidth first + displayWidth second := by
  simp [displayWidth, width_append]

theorem width_of_narrow {text : List Char} (h : ∀ c ∈ text, charWidth c = 1) :
    width text = text.length := by
  induction text with
  | nil => rfl
  | cons c rest ih =>
    rw [width, h c List.mem_cons_self, ih fun other hother => h other
      (List.mem_cons_of_mem c hother), List.length_cons, Nat.add_comm]

theorem width_replicate {c : Char} (h : charWidth c = 1) (n : Nat) :
    width (List.replicate n c) = n := by
  rw [width_of_narrow fun other hother => List.eq_of_mem_replicate hother ▸ h,
    List.length_replicate]

@[simp] theorem displayWidth_copies {c : Char} (h : charWidth c = 1) (n : Nat) :
    displayWidth (copies n c) = n := by
  simp [displayWidth, copies, width_replicate h]

@[simp] theorem displayWidth_spaces (n : Nat) : displayWidth (spaces n) = n := by
  simp [displayWidth, spaces, width_replicate (c := ' ') (by decide)]

theorem width_clipChars_le (room : Nat) (text : List Char) :
    width (clipChars room text) ≤ room := by
  induction text generalizing room with
  | nil => exact Nat.zero_le room
  | cons c rest ih =>
    rw [clipChars]
    split
    · have := ih (room - charWidth c)
      rw [width]
      omega
    · exact Nat.zero_le room

theorem clipChars_isPrefix (room : Nat) (text : List Char) : clipChars room text <+: text := by
  induction text generalizing room with
  | nil => exact List.prefix_refl []
  | cons c rest ih =>
    rw [clipChars]
    split
    · exact List.cons_prefix_cons.mpr ⟨rfl, ih _⟩
    · exact List.nil_prefix

theorem displayWidth_clip_le (text : String) (room : Nat) :
    displayWidth (clip text room) ≤ room := by
  simpa [displayWidth, clip] using width_clipChars_le room text.toList

@[simp] theorem displayWidth_fit (text : String) (room : Nat) :
    displayWidth (fit text room) = room := by
  have := displayWidth_clip_le text room
  simp only [fit, displayWidth_append, displayWidth_spaces]
  omega

/-- What is put and the room that is left are the room. -/
theorem displayWidth_put (room : Nat) (text : String) :
    displayWidth (put room text).1 + (put room text).2 = room := by
  have := displayWidth_clip_le text room
  simp only [put]
  omega

/-! ## Control characters -/

/-- A character that a terminal obeys or drops instead of showing it. -/
def IsControl (c : Char) : Prop := c.toNat < 0x20 ∨ 0x7F ≤ c.toNat ∧ c.toNat ≤ 0x9F

instance (c : Char) : Decidable (IsControl c) :=
  inferInstanceAs (Decidable (c.toNat < 0x20 ∨ 0x7F ≤ c.toNat ∧ c.toNat ≤ 0x9F))

/-- A text without control characters. -/
def Clean (text : String) : Prop := ∀ c ∈ text.toList, ¬ IsControl c

-- Named, as the search could also go through all characters there are.
instance (text : String) : Decidable (Clean text) :=
  List.decidableBAll (fun c => ¬ IsControl c) text.toList

@[simp] theorem clean_append {first second : String} :
    Clean (first ++ second) ↔ Clean first ∧ Clean second := by
  simp [Clean, or_imp, forall_and]

@[simp] theorem clean_ofList {text : List Char} :
    Clean (String.ofList text) ↔ ∀ c ∈ text, ¬ IsControl c := by
  simp [Clean]

@[simp] theorem clean_singleton {c : Char} : Clean (String.singleton c) ↔ ¬ IsControl c := by
  simp [Clean]

theorem clean_replicate {c : Char} (h : ¬ IsControl c) (n : Nat) :
    ∀ other ∈ List.replicate n c, ¬ IsControl other := by
  intro other hother
  rwa [List.eq_of_mem_replicate hother]

@[simp] theorem clean_copies {c : Char} (h : ¬ IsControl c) (n : Nat) : Clean (copies n c) :=
  clean_ofList.mpr (clean_replicate h n)

@[simp] theorem clean_spaces (n : Nat) : Clean (spaces n) := clean_copies (by decide) n

/-- A text that has no control characters but the allowed ones. -/
def KeepsTo (allowed : Char → Prop) (text : String) : Prop :=
  ∀ c ∈ text.toList, IsControl c → allowed c

theorem keepsTo_false {text : String} : KeepsTo (fun _ => False) text ↔ Clean text := Iff.rfl

section KeepsTo

variable {allowed : Char → Prop} {text : String}

@[simp] theorem Clean.keepsTo (h : Clean text) : KeepsTo allowed text :=
  fun c hc hcontrol => absurd hcontrol (h c hc)

@[simp] theorem keepsTo_append {first second : String} :
    KeepsTo allowed (first ++ second) ↔ KeepsTo allowed first ∧ KeepsTo allowed second := by
  simp [KeepsTo, or_imp, forall_and]

@[simp] theorem keepsTo_padLeft {count : Nat} :
    KeepsTo allowed (padLeft count text) ↔ KeepsTo allowed text := by
  simp [padLeft]

@[simp] theorem keepsTo_padRight {count : Nat} :
    KeepsTo allowed (padRight count text) ↔ KeepsTo allowed text := by
  simp [padRight]

theorem keepsTo_intercalate {separator : String} (h : KeepsTo allowed separator)
    {texts : List String} (htexts : ∀ text ∈ texts, KeepsTo allowed text) :
    KeepsTo allowed (String.intercalate separator texts) := by
  induction texts with
  | nil => exact fun _ hc => absurd hc List.not_mem_nil
  | cons text rest ih =>
    have hrest := ih fun other hother => htexts other (List.mem_cons_of_mem _ hother)
    have htext := htexts text List.mem_cons_self
    cases rest with
    | nil => simpa using htext
    | cons next rest =>
      rw [String.intercalate_cons_cons]
      exact keepsTo_append.mpr ⟨keepsTo_append.mpr ⟨htext, h⟩, hrest⟩

variable (h : KeepsTo allowed text)

include h

theorem keepsTo_clip (room : Nat) : KeepsTo allowed (clip text room) := by
  intro c hc
  rw [clip, String.toList_ofList] at hc
  exact h c ((clipChars_isPrefix room text.toList).subset hc)

theorem keepsTo_clipTail (room : Nat) : KeepsTo allowed (clipTail text room) := by
  intro c hc
  rw [clipTail, String.toList_ofList] at hc
  have hkept := (clipChars_isPrefix room text.toList.reverse).subset (List.mem_reverse.mp hc)
  exact h c (List.mem_reverse.mp hkept)

theorem keepsTo_fit (room : Nat) : KeepsTo allowed (fit text room) :=
  keepsTo_append.mpr ⟨keepsTo_clip h room, (clean_spaces _).keepsTo⟩

theorem keepsTo_put (room : Nat) : KeepsTo allowed (put room text).1 := keepsTo_clip h room

theorem keepsTo_truncate (room : Nat) : KeepsTo allowed (truncate text room) := by
  have hdots : Clean "..." := by decide
  unfold truncate
  split
  · exact h
  · split
    · exact keepsTo_append.mpr ⟨keepsTo_clip h _, hdots.keepsTo⟩
    · exact keepsTo_clip h _

end KeepsTo

theorem clean_fit {text : String} (h : Clean text) (room : Nat) : Clean (fit text room) :=
  keepsTo_false.mp (keepsTo_fit (keepsTo_false.mpr h) room)

@[simp] theorem clean_padLeft {text : String} {count : Nat} :
    Clean (padLeft count text) ↔ Clean text := keepsTo_padLeft

@[simp] theorem clean_padRight {text : String} {count : Nat} :
    Clean (padRight count text) ↔ Clean text := keepsTo_padRight

theorem clean_intercalate {separator : String} (h : Clean separator) {texts : List String}
    (htexts : ∀ text ∈ texts, Clean text) : Clean (String.intercalate separator texts) :=
  keepsTo_intercalate h htexts

/-! ## Numbers -/

/-- A character of ASCII that a terminal shows. -/
def IsPrintable (c : Char) : Prop := 0x20 ≤ c.toNat ∧ c.toNat < 0x7F

instance (c : Char) : Decidable (IsPrintable c) :=
  inferInstanceAs (Decidable (0x20 ≤ c.toNat ∧ c.toNat < 0x7F))

/-- A text of such characters, as every number is. -/
def Printable (text : String) : Prop := ∀ c ∈ text.toList, IsPrintable c

instance (text : String) : Decidable (Printable text) :=
  List.decidableBAll IsPrintable text.toList

theorem IsPrintable.charWidth {c : Char} (h : IsPrintable c) : charWidth c = 1 := by
  simp [Text.charWidth, h.1, h.2]

section Printable

variable {text : String} (h : Printable text)

include h

theorem Printable.clean : Clean text := by
  intro c hc
  obtain ⟨hlow, hhigh⟩ := h c hc
  unfold IsControl
  omega

/-- Each character takes one column. -/
theorem Printable.displayWidth_eq : displayWidth text = text.length := by
  rw [displayWidth, ← String.length_toList]
  exact width_of_narrow fun c hc => (h c hc).charWidth

end Printable

@[simp] theorem printable_append {first second : String} :
    Printable (first ++ second) ↔ Printable first ∧ Printable second := by
  simp [Printable, or_imp, forall_and]

theorem isPrintable_of_isDigit {c : Char} (h : c.isDigit = true) : IsPrintable c := by
  obtain ⟨hlow, hhigh⟩ := Char.isDigit_iff_toNat.mp h
  have hzero : '0'.toNat = 0x30 := rfl
  have hnine : '9'.toNat = 0x39 := rfl
  unfold IsPrintable
  omega

theorem isPrintable_of_mem_toDigits {c : Char} {n : Nat} (h : c ∈ Nat.toDigits 10 n) :
    IsPrintable c :=
  isPrintable_of_isDigit (Nat.isDigit_of_mem_toDigits (by decide) (by decide) h)

theorem printable_repr_nat (n : Nat) : Printable n.repr := by
  intro c hc
  rw [Nat.repr, String.toList_ofList] at hc
  exact isPrintable_of_mem_toDigits hc

theorem printable_repr_int (n : Int) : Printable n.repr := by
  rw [Int.repr_eq_if]
  split
  · exact printable_repr_nat _
  · exact printable_append.mpr ⟨by decide, printable_repr_nat _⟩

theorem printable_stepsText (places steps : Nat) : Printable (Double.stepsText places steps) := by
  unfold Double.stepsText
  split
  · exact printable_repr_nat steps
  · refine printable_append.mpr ⟨printable_append.mpr ⟨printable_repr_nat _, by decide⟩, ?_⟩
    intro c hc
    rw [digitsPadded, String.toList_ofList] at hc
    rcases List.mem_append.mp hc with hzero | hdigit
    · obtain rfl := List.eq_of_mem_replicate hzero
      decide
    · exact isPrintable_of_mem_toDigits hdigit

theorem printable_fixed (places : Nat) (x : Double) : Printable (x.fixed places) := by
  have hsign : Printable (if x.negative then "-" else "") := by split <;> decide
  unfold Double.fixed
  split
  · decide
  · dsimp only
    split
    · exact printable_append.mpr ⟨hsign, by decide⟩
    · exact printable_append.mpr ⟨hsign, printable_stepsText places _⟩

theorem printable_formatKb (kb : Nat) : Printable (formatKb kb) := by
  have hunit : ∀ unit letter, Printable letter → Printable (inUnit kb unit letter) := by
    intro unit letter hletter
    exact printable_append.mpr ⟨printable_fixed 1 _, hletter⟩
  unfold formatKb
  split
  · exact hunit _ _ (by decide)
  · split
    · exact hunit _ _ (by decide)
    · split
      · exact hunit _ _ (by decide)
      · exact printable_append.mpr ⟨printable_repr_nat kb, by decide⟩

@[simp] theorem clean_repr_nat (n : Nat) : Clean n.repr := (printable_repr_nat n).clean

@[simp] theorem clean_repr_int (n : Int) : Clean n.repr := (printable_repr_int n).clean

@[simp] theorem clean_fixed (places : Nat) (x : Double) : Clean (x.fixed places) :=
  (printable_fixed places x).clean

@[simp] theorem clean_formatKb (kb : Nat) : Clean (formatKb kb) := (printable_formatKb kb).clean

end ProcessMonitor.Text

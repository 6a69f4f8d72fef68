import MeshAlarm.Text.Blank
import MeshAlarm.Text.UpperCase

/-!
# Words in capitals, and texts without the blanks around them

Capitals take no notice of where words begin and end: a blank stays what it is, and no character of
a word turns into a blank or into nothing. So the words of a text in capitals are its words in
capitals.

Several characters may share a capital, and one character may have several. Only a q, small or
capital, has the capital Q.

Trimming takes the blanks around a text away, up to the first and the last character that is none.

## Main definitions

* `Text.Capitalizes`: what all capitals of a character have in common

## Main results

* `Text.capitalizes_upper`: the capitals of every character have it
* `Text.words_upperCase`: the words of a text in capitals
* `Text.upperCase_eq_q_iff`: the words whose capitals are a Q
* `Text.trim_append`: the blanks around a text are taken away, and no others
-/

namespace MeshAlarm.Text

/-! ### Capitals -/

/-- Characters that stand for another one leave blanks and words where they are, and stand for a Q
only if there was one. -/
def Capitalizes (c : Char) (capitals : List Char) : Prop :=
  capitals ≠ [] ∧ (isBlank c → capitals = [c]) ∧ (¬ isBlank c → ¬ capitals.any isBlank) ∧
    (capitals = ['Q'] → c = 'q' ∨ c = 'Q')

instance (c : Char) (capitals : List Char) : Decidable (Capitalizes c capitals) :=
  inferInstanceAs (Decidable (_ ∧ _))

theorem capitalizes_ascii : ∀ n < 0x80, Capitalizes (Char.ofNat n) [(Char.ofNat n).toUpper] := by
  decide +kernel

theorem capitalizes_sequences : ∀ entry ∈ upperSequences,
    Capitalizes (Char.ofNat entry.1) (entry.2.map Char.ofNat) := by
  decide +kernel

theorem capitalizes_runs : ∀ run ∈ upperRuns, ∀ k < run.last + 1 - run.first,
    run.holds (run.first + k) →
      Capitalizes (Char.ofNat (run.first + k)) [run.capital (run.first + k)] := by
  decide +kernel

theorem capitalizes_self (c : Char) : Capitalizes c [c] := by
  refine ⟨List.cons_ne_nil c [], fun _ => rfl, ?_, ?_⟩
  · intro hc
    rwa [List.any_cons, List.any_nil, Bool.or_false]
  · intro hq
    exact .inr (List.head_eq_of_cons_eq hq)

/-- The capitals of every character leave words where they are. -/
theorem capitalizes_upper (c : Char) : Capitalizes c (upper c) := by
  unfold upper
  split
  · next hascii =>
    have h := capitalizes_ascii c.toNat hascii
    rwa [Char.ofNat_toNat] at h
  split
  · next capitals hlookup =>
    obtain ⟨l₁, l₂, htable, -⟩ := List.lookup_eq_some_iff.1 hlookup
    have h := capitalizes_sequences (c.toNat, capitals) (by simp [htable])
    rwa [Char.ofNat_toNat] at h
  split
  · next run hfind =>
    have hholds := List.find?_some hfind
    have hbounds : run.first ≤ c.toNat ∧ c.toNat ≤ run.last := by
      simp only [UpperRun.holds, Bool.and_eq_true, decide_eq_true_iff] at hholds
      exact hholds.1
    have hplace : run.first + (c.toNat - run.first) = c.toNat := by omega
    have h := capitalizes_runs run (List.mem_of_find?_eq_some hfind) (c.toNat - run.first) (by omega)
    rw [hplace, Char.ofNat_toNat] at h
    exact h hholds
  · exact capitalizes_self c

theorem upper_ne_nil (c : Char) : upper c ≠ [] :=
  (capitalizes_upper c).1

theorem upper_of_isBlank {c : Char} (h : isBlank c) : upper c = [c] :=
  (capitalizes_upper c).2.1 h

theorem not_isBlank_of_mem_upper {c d : Char} (hc : ¬ isBlank c) (hd : d ∈ upper c) :
    ¬ isBlank d := by
  intro hblank
  exact (capitalizes_upper c).2.2.1 hc (List.any_eq_true.2 ⟨d, hd, hblank⟩)

theorem upper_eq_q_iff {c : Char} : upper c = ['Q'] ↔ c = 'q' ∨ c = 'Q' := by
  constructor
  · exact (capitalizes_upper c).2.2.2
  · rintro (rfl | rfl) <;> rfl

/-! ### Words -/

theorem upperCase_eq_nil_iff {cs : List Char} : upperCase cs = [] ↔ cs = [] := by
  cases cs with
  | nil => exact iff_of_true rfl rfl
  | cons c cs => simp [upper_ne_nil]

theorem consWord_upperCase (word : List Char) (others : List (List Char)) :
    consWord (upperCase word) (others.map upperCase) = (consWord word others).map upperCase := by
  unfold consWord
  simp only [List.isEmpty_iff, upperCase_eq_nil_iff]
  split <;> rfl

/-- Characters that are no blanks belong to the first word. -/
theorem splitWord_append {ds : List Char} (h : ∀ d ∈ ds, ¬ isBlank d) (cs : List Char) :
    splitWord (ds ++ cs) = (ds ++ (splitWord cs).1, (splitWord cs).2) := by
  induction ds with
  | nil => rfl
  | cons d ds ih =>
    have hd : isBlank d = false := by simpa using h d List.mem_cons_self
    have hds := ih fun e he => h e (List.mem_cons_of_mem d he)
    simp [splitWord, hd, hds]

theorem splitWord_upperCase (cs : List Char) :
    splitWord (upperCase cs) = (upperCase (splitWord cs).1, (splitWord cs).2.map upperCase) := by
  -- Induction on the text. A blank ends the word in front, the capitals of others lengthen it.
  induction cs with
  | nil => rfl
  | cons c cs ih =>
    rw [upperCase_cons]
    by_cases hc : isBlank c
    · rw [upper_of_isBlank hc]
      simp [splitWord, hc, ih, consWord_upperCase]
    · rw [splitWord_append fun d hd => not_isBlank_of_mem_upper hc hd, ih]
      simp [splitWord, hc]

/-- The words of a text in capitals are its words in capitals. -/
theorem words_upperCase (cs : List Char) : words (upperCase cs) = (words cs).map upperCase := by
  rw [words, splitWord_upperCase, consWord_upperCase, words]

/-- No other word than a q has the capital Q. -/
theorem upperCase_eq_q_iff {word : List Char} :
    upperCase word = ['Q'] ↔ word = ['q'] ∨ word = ['Q'] := by
  match word with
  | [] => simp
  | [c] => simp [upper_eq_q_iff]
  | c :: d :: cs =>
    have hc := List.length_pos_iff.2 (upper_ne_nil c)
    have hd := List.length_pos_iff.2 (upper_ne_nil d)
    refine iff_of_false ?_ (by simp)
    intro h
    have hlength := congrArg List.length h
    simp only [upperCase_cons, List.length_append, List.length_singleton] at hlength
    omega

/-! ### Trimming -/

theorem dropWhile_eq_self {p : Char → Bool} {cs : List Char} (h : ∀ c ∈ cs.head?, ¬ p c) :
    cs.dropWhile p = cs := by
  cases cs with
  | nil => rfl
  | cons c cs => exact List.dropWhile_cons_of_neg (h c rfl)

/-- The blanks around a text are taken away, and no others. -/
theorem trim_append {blank : Char → Bool} {front cs back : List Char}
    (hfront : ∀ c ∈ front, blank c) (hback : ∀ c ∈ back, blank c)
    (hhead : ∀ c ∈ cs.head?, ¬ blank c) (hlast : ∀ c ∈ cs.getLast?, ¬ blank c) :
    trim blank (front ++ (cs ++ back)) = cs := by
  cases cs with
  | nil =>
    have hall : ∀ c ∈ front ++ back, blank c := by
      intro c hc
      exact (List.mem_append.1 hc).elim (hfront c) (hback c)
    have hnil : (front ++ back ++ []).dropWhile blank = [].dropWhile blank :=
      List.dropWhile_append_of_pos hall
    rw [List.append_nil] at hnil
    rw [List.nil_append, trim, hnil]
    rfl
  | cons c cs =>
    have hstart : (front ++ (c :: cs ++ back)).dropWhile blank = c :: cs ++ back := by
      rw [List.dropWhile_append_of_pos hfront]
      exact List.dropWhile_cons_of_neg (hhead c rfl)
    have hback' : ∀ d ∈ back.reverse, blank d := by
      intro d hd
      exact hback d (List.mem_reverse.1 hd)
    have hend : (back.reverse ++ (c :: cs).reverse).dropWhile blank = (c :: cs).reverse := by
      rw [List.dropWhile_append_of_pos hback']
      apply dropWhile_eq_self
      rwa [List.head?_reverse]
    rw [trim, hstart, List.reverse_append, hend, List.reverse_reverse]

/-- A text without blanks at its ends stays as it is. -/
theorem trim_eq_self {blank : Char → Bool} {cs : List Char} (hhead : ∀ c ∈ cs.head?, ¬ blank c)
    (hlast : ∀ c ∈ cs.getLast?, ¬ blank c) : trim blank cs = cs := by
  have hnone : ∀ c ∈ ([] : List Char), blank c := by simp
  have htrim := trim_append hnone hnone hhead hlast
  rwa [List.append_nil, List.nil_append] at htrim

end MeshAlarm.Text

import MeshAlarm.EventType.Name
import MeshAlarm.Proofs.Text
import MeshAlarm.Proofs.Text.Hex

/-!
# Names respelled

The name of an event type may be written in either case, with hyphens, spaces or underscores between
its words, and with blanks around it. All these spellings come down to one key, so that they name the
same type, or none of them names one.

Blanks are taken away before anything else is looked at. A separator at an end of a name could become
a space and go with them, so that names are respelled only if they start and end with other
characters. In between, a blank other than the space is a character like any other.

## Main definitions

* `EventType.IsSeparator`: the characters that stand for each other between words
* `EventType.Variant`: characters that may stand for each other in a name
* `EventType.HasFirmEnds`: names without blanks or separators at their ends
* `EventType.Respelled`: names in another spelling
* `EventType.ReadAlike`: names of one type, or of none

## Main results

* `EventType.key_of_respelled`: another spelling comes down to the same key
* `EventType.read_in_every_spelling`: names are read alike in every spelling
-/

namespace MeshAlarm.EventType

open Text (isBlank trim upper upperCase)

/-! ### Spelling -/

/-- The characters that stand for each other between words. -/
def IsSeparator (c : Char) : Prop :=
  c = '-' ∨ c = '_' ∨ c = ' '

instance (c : Char) : Decidable (IsSeparator c) :=
  inferInstanceAs (Decidable (_ ∨ _))

/-- Characters that may stand for each other in a name: the same letter of ASCII in both cases, and
separators. Other characters have no case here. -/
def Variant (c d : Char) : Prop :=
  d = c ∨ d = c.toUpper ∨ d = c.toLower ∨ (IsSeparator c ∧ IsSeparator d)

instance (c d : Char) : Decidable (Variant c d) :=
  inferInstanceAs (Decidable (_ ∨ _))

/-- A character that no spelling turns into a blank. -/
def IsFirm (c : Char) : Prop :=
  ¬ isBlank c ∧ ¬ IsSeparator c

instance (c : Char) : Decidable (IsFirm c) :=
  inferInstanceAs (Decidable (_ ∧ _))

/-- A name has no blanks and no separators at its ends. -/
def HasFirmEnds (cs : List Char) : Prop :=
  (∀ c ∈ cs.head?, IsFirm c) ∧ ∀ c ∈ cs.getLast?, IsFirm c

/-- A name in another spelling: variants of its characters, and blanks around them. -/
def Respelled (cs ds : List Char) : Prop :=
  ∃ front middle back, ds = front ++ (middle ++ back) ∧ (∀ c ∈ front, isBlank c) ∧
    (∀ c ∈ back, isBlank c) ∧ List.Forall₂ Variant cs middle

/-! ### Characters -/

/-- Beyond ASCII a character has no other case here. -/
theorem toUpper_toLower_of_le {c : Char} (h : 0x80 ≤ c.toNat) : c.toUpper = c ∧ c.toLower = c := by
  have hz : ¬ c.val ≤ 'z'.val := by
    rw [UInt32.le_iff_toNat_le]
    exact Nat.not_le.2 (Nat.lt_of_lt_of_le (by decide) h)
  have hZ : ¬ c.val ≤ 'Z'.val := by
    rw [UInt32.le_iff_toNat_le]
    exact Nat.not_le.2 (Nat.lt_of_lt_of_le (by decide) h)
  exact ⟨dif_neg fun h => hz h.2, dif_neg fun h => hZ h.2⟩

/-- What holds of the cases of each ASCII character, and of the other characters themselves, holds
of the cases of all. -/
theorem cases_of_ascii {P : Char → Char → Prop} (hself : ∀ c, P c c)
    (hascii : ∀ k < 0x80, P (Char.ofNat k) (Char.ofNat k).toUpper ∧
      P (Char.ofNat k) (Char.ofNat k).toLower) (c : Char) : P c c.toUpper ∧ P c c.toLower := by
  by_cases hc : c.toNat < 0x80
  · exact Text.Hex.forall_ascii (P := fun c => P c c.toUpper ∧ P c c.toLower) hascii hc
  · obtain ⟨hupper, hlower⟩ := toUpper_toLower_of_le (Nat.not_lt.1 hc)
    rw [hupper, hlower]
    exact ⟨hself c, hself c⟩

/-- Both cases of a character have the same capitals. -/
theorem upper_cases (c : Char) : upper c.toUpper = upper c ∧ upper c.toLower = upper c :=
  cases_of_ascii (P := fun c d => upper d = upper c) (fun _ => rfl) (by decide +kernel) c

/-- Both cases of a firm character are firm. -/
theorem isFirm_cases (c : Char) : (IsFirm c → IsFirm c.toUpper) ∧ (IsFirm c → IsFirm c.toLower) :=
  cases_of_ascii (P := fun c d => IsFirm c → IsFirm d) (fun _ => id) (by decide +kernel) c

theorem upper_separator {c : Char} (h : IsSeparator c) : (upper c).map separator = ['_'] := by
  rcases h with rfl | rfl | rfl <;> rfl

/-- Variants come down to the same characters of a key. -/
theorem Variant.upper_eq {c d : Char} (h : Variant c d) :
    (upper d).map separator = (upper c).map separator := by
  rcases h with rfl | rfl | rfl | ⟨hc, hd⟩
  · rfl
  · rw [(upper_cases c).1]
  · rw [(upper_cases c).2]
  · rw [upper_separator hc, upper_separator hd]

theorem Variant.isFirm {c d : Char} (h : Variant c d) (hc : IsFirm c) : IsFirm d := by
  rcases h with rfl | rfl | rfl | ⟨hsep, -⟩
  · exact hc
  · exact (isFirm_cases c).1 hc
  · exact (isFirm_cases c).2 hc
  · exact absurd hsep hc.2

/-! ### Keys -/

section Keys

variable {cs ds : List Char}

theorem HasFirmEnds.trim_append (h : HasFirmEnds cs) {front back : List Char}
    (hfront : ∀ c ∈ front, isBlank c) (hback : ∀ c ∈ back, isBlank c) :
    trim isBlank (front ++ (cs ++ back)) = cs :=
  Text.trim_append hfront hback (fun c hc => (h.1 c hc).1) fun c hc => (h.2 c hc).1

theorem isFirm_head?_variants (h : ∀ c ∈ cs.head?, IsFirm c) (hv : List.Forall₂ Variant cs ds) :
    ∀ d ∈ ds.head?, IsFirm d := by
  cases hv with
  | nil => exact h
  | cons hc _ =>
    rintro d hd
    obtain rfl := Option.some.inj hd
    exact hc.isFirm (h _ rfl)

/-- Variants of a name have firm ends if the name has. -/
theorem HasFirmEnds.variants (h : HasFirmEnds cs) (hv : List.Forall₂ Variant cs ds) :
    HasFirmEnds ds := by
  refine ⟨isFirm_head?_variants h.1 hv, ?_⟩
  rw [← List.head?_reverse]
  apply isFirm_head?_variants _ (List.forall₂_reverse_iff.2 hv)
  rw [List.head?_reverse]
  exact h.2

theorem map_upperCase_variants (h : List.Forall₂ Variant cs ds) :
    (upperCase ds).map separator = (upperCase cs).map separator := by
  induction h with
  | nil => rfl
  | cons hc _ ih =>
    rw [Text.upperCase_cons, Text.upperCase_cons, List.map_append, List.map_append, hc.upper_eq, ih]

/-- Another spelling of a name comes down to the same key. -/
theorem key_of_respelled (h : HasFirmEnds cs) (hr : Respelled cs ds) : key ds = key cs := by
  obtain ⟨front, middle, back, rfl, hfront, hback, hv⟩ := hr
  have hcs : trim isBlank cs = cs :=
    Text.trim_eq_self (fun c hc => (h.1 c hc).1) fun c hc => (h.2 c hc).1
  rw [key, key, (h.variants hv).trim_append hfront hback, hcs, map_upperCase_variants hv]

end Keys

/-! ### Names -/

/-- Names that are read as one type, or of which neither is the name of a type. -/
def ReadAlike (name name' : String) : Prop :=
  (∃ t, ofName name = .ok t ∧ ofName name' = .ok t) ∨
    ((∃ fault, ofName name = .error fault ∧ fault.kind = .badValue) ∧
      ∃ fault, ofName name' = .error fault ∧ fault.kind = .badValue)

theorem readAlike_of_key {name name' : String} (h : key name'.toList = key name.toList) :
    ReadAlike name name' := by
  have hsame : ofName? name' = ofName? name := by rw [ofName?, ofName?, h]
  unfold ReadAlike ofName
  rw [hsame]
  cases ofName? name with
  | some t => exact .inl ⟨t, rfl, rfl⟩
  | none => exact .inr ⟨⟨_, rfl, rfl⟩, _, rfl, rfl⟩

/-- **Names are read in every spelling.** A name that is respelled is read as the type that it names,
or refused as it was. The identifier and the display name of a type are names of it. -/
theorem read_in_every_spelling :
    (∀ name name' : String, HasFirmEnds name.toList → Respelled name.toList name'.toList →
      ReadAlike name name') ∧
      ∀ t : EventType, ofName t.identifier = .ok t ∧ ofName t.label = .ok t := by
  refine ⟨fun name name' h hr => readAlike_of_key (key_of_respelled h hr), ?_⟩
  intro t
  cases t <;> decide +kernel

/-- Neither capitals nor a hyphen nor blanks around make another name of carbon monoxide. -/
theorem reads_carbon_monoxide_in_capitals :
    (HasFirmEnds "Carbon Monoxide".toList ∧
      Respelled "Carbon Monoxide".toList "\tcarbon-MONOXIDE\u3000".toList) ∧
      ofName "\tcarbon-MONOXIDE\u3000" = .ok .carbonMonoxide := by
  have h : HasFirmEnds "Carbon Monoxide".toList := by
    refine ⟨?_, ?_⟩
    · rintro c ⟨⟩
      decide
    · rintro c ⟨⟩
      decide
  have hr : Respelled "Carbon Monoxide".toList "\tcarbon-MONOXIDE\u3000".toList :=
    ⟨['\t'], "carbon-MONOXIDE".toList, ['\u3000'], rfl, List.forall_mem_singleton.2 rfl,
      List.forall_mem_singleton.2 rfl, by decide⟩
  refine ⟨⟨h, hr⟩, ?_⟩
  have hlabel : ofName "Carbon Monoxide" = .ok .carbonMonoxide :=
    (read_in_every_spelling.2 .carbonMonoxide).2
  rcases read_in_every_spelling.1 _ _ h hr with ⟨t, ht, ht'⟩ | ⟨⟨fault, hfault, -⟩, -⟩
  · rw [ht', ← ht, hlabel]
  · rw [hlabel] at hfault
    cases hfault

end MeshAlarm.EventType

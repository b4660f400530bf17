/-
Upper case is reached in one step.

A text in upper case stays as it is when it is put in upper case again
(`upper_upper`). The reason is in the tables: no code point that they name as
a capital, alone or in a sequence, is one that they map. Each rule is read as
a run here, the lower-case letters of ASCII and the characters with a sequence
included, and the check compares runs with runs: most pairs lie apart, and
only where two overlap is a run gone through code point by code point.

Words of ASCII letters have capitals among the same letters.
-/
import Mathlib
import Worksheet.Text.Upper

namespace Worksheet.Text

variable {c d : Char} {r other : CaseRun} {n : Nat}

-- ================================================================== ASCII

private theorem isUpper_iff_toNat :
    c.isUpper = true ↔ 65 ≤ c.toNat ∧ c.toNat ≤ 90 := by
  simp [Char.isUpper, UInt32.le_iff_toNat_le, ← Char.toNat_val]

private theorem isLower_iff_toNat :
    c.isLower = true ↔ 97 ≤ c.toNat ∧ c.toNat ≤ 122 := by
  simp [Char.isLower, UInt32.le_iff_toNat_le, ← Char.toNat_val]

theorem isAlpha_iff_toNat : c.isAlpha = true ↔
    (65 ≤ c.toNat ∧ c.toNat ≤ 90) ∨ (97 ≤ c.toNat ∧ c.toNat ≤ 122) := by
  rw [Char.isAlpha, Bool.or_eq_true, isUpper_iff_toNat, isLower_iff_toNat]

/-- A property of the characters of ASCII can be checked one by one. -/
theorem forall_ascii {P : Char → Prop} (h : ∀ n < 0x80, P (Char.ofNat n))
    (hc : c.toNat < 0x80) :
    P c := by
  have hn := h c.toNat hc
  rwa [Char.ofNat_toNat] at hn

-- ================================================================== rules

/-- The code points that a run maps. -/
def CaseRun.codes (r : CaseRun) : List Nat :=
  (List.range ((r.last - r.first) / r.stride + 1)).map fun k =>
    r.first + k * r.stride

/-- The code point to which a run maps another. -/
def CaseRun.image (r : CaseRun) (n : Nat) : Nat :=
  (n + r.offset).toNat

/-- The run maps this code point. -/
def CaseRun.maps (r : CaseRun) (n : Nat) : Bool :=
  Nat.ble r.first n && (Nat.ble n r.last &&
    Nat.beq ((n - r.first) % r.stride) 0)

/-- What the first run maps to is not mapped by the second one. -/
def CaseRun.avoids (r other : CaseRun) : Bool :=
  Nat.blt (r.image r.last) other.first ||
    (Nat.blt other.last (r.image r.first) ||
    r.codes.all fun n => !other.maps (r.image n))

/-- Every rule of the tables as a run. -/
def rules : List CaseRun :=
  ⟨0x61, 0x7a, 1, -32⟩ :: capitalSequences.map
    (fun entry => ⟨entry.1, entry.1, 1, 0⟩) ++ caseRuns

private theorem maps_iff : r.maps n = true ↔
    r.first ≤ n ∧ n ≤ r.last ∧ (n - r.first) % r.stride = 0 := by
  simp [CaseRun.maps]

private theorem covers_eq_maps : r.covers c = r.maps c.toNat := by
  rw [Bool.eq_iff_iff, maps_iff, CaseRun.covers]
  simp [and_assoc]

private theorem mem_codes (h : r.maps n = true) : n ∈ r.codes := by
  obtain ⟨hfirst, hlast, hstep⟩ := maps_iff.mp h
  refine List.mem_map.mpr ⟨(n - r.first) / r.stride, List.mem_range.mpr ?_, ?_⟩
  · have := Nat.div_le_div_right (c := r.stride)
      (Nat.sub_le_sub_right hlast r.first)
    omega
  · have := Nat.div_mul_cancel (Nat.dvd_of_mod_eq_zero hstep)
    omega

/-- The comparison of two runs tells the truth about each code point. -/
private theorem maps_image_of_avoids (havoids : r.avoids other = true)
    (h : r.maps n = true) :
    other.maps (r.image n) = false := by
  have hmem := mem_codes h
  obtain ⟨hfirst, hlast, -⟩ := maps_iff.mp h
  simp only [CaseRun.avoids, Bool.or_eq_true, Nat.blt_eq, List.all_eq_true]
    at havoids
  have hle : r.image r.first ≤ r.image n ∧ r.image n ≤ r.image r.last := by
    simp only [CaseRun.image]
    omega
  rcases havoids with hbelow | habove | hall
  · rw [← Bool.not_eq_true, maps_iff]
    omega
  · rw [← Bool.not_eq_true, maps_iff]
    omega
  · simpa using hall n hmem

-- =============================================================== capitals

/-- A character that no rule maps is its own capital. -/
private theorem upperChar_of_rules (h : ∀ r ∈ rules, r.maps c.toNat = false) :
    upperChar c = [c] := by
  have hascii := h ⟨0x61, 0x7a, 1, -32⟩ List.mem_cons_self
  have hlower : ¬ c.isLower = true := fun hlower => by
    obtain ⟨hfirst, hlast⟩ := isLower_iff_toNat.mp hlower
    exact Bool.eq_false_iff.mp hascii (maps_iff.mpr ⟨hfirst, hlast,
      Nat.mod_one _⟩)
  have hlookup : capitalSequences.lookup c.toNat = none := by
    rw [List.lookup_eq_none_iff]
    intro entry hentry
    have hrule := h ⟨entry.1, entry.1, 1, 0⟩
      (List.mem_append_left _ (List.mem_cons_of_mem _
        (List.mem_map.mpr ⟨entry, hentry, rfl⟩)))
    rw [bne_iff_ne]
    intro heq
    exact Bool.eq_false_iff.mp hrule
      (maps_iff.mpr ⟨Nat.le_of_eq heq.symm, Nat.le_of_eq heq, Nat.mod_one _⟩)
  have hfind : caseRuns.find? (·.covers c) = none := by
    rw [List.find?_eq_none]
    intro r hr
    rw [covers_eq_maps, h r (List.mem_append_right _ hr)]
    exact Bool.false_ne_true
  unfold upperChar
  split
  · rw [Char.toUpper_eq_of_not_isLower hlower]
  · rw [hlookup, hfind]

private theorem upperChar_ofNat (h : ∀ r ∈ rules, r.maps n = false) :
    upperChar (Char.ofNat n) = [Char.ofNat n] := by
  by_cases hvalid : n.isValidChar
  · have hcode : (Char.ofNat n).toNat = n := by
      rw [Char.ofNat, dif_pos hvalid]
      rfl
    exact upperChar_of_rules (by rwa [hcode])
  · -- a number that is no code point stands for the null character
    rw [Char.ofNat, dif_neg hvalid]
    decide

private theorem runs_avoid_rules :
    (rules.all fun other => caseRuns.all (·.avoids other)) = true := by
  decide +kernel

private theorem sequences_avoid_rules :
    (capitalSequences.all fun entry => entry.2.all fun n => rules.all
      (!·.maps n)) = true := by
  decide +kernel

/-- A capital is its own capital. -/
private theorem upperChar_of_mem (hd : d ∈ upperChar c) :
    upperChar d = [d] := by
  unfold upperChar at hd
  split at hd
  · next hascii =>
    rw [List.mem_singleton.mp hd]
    exact forall_ascii (P := fun c => upperChar c.toUpper = [c.toUpper])
      (by decide +kernel) hascii
  · next hascii =>
    split at hd
    · next codes hlookup =>
      obtain ⟨n, hn, rfl⟩ := List.mem_map.mp hd
      obtain ⟨before, after, hsplit, -⟩ := List.lookup_eq_some_iff.mp hlookup
      have hentry : (c.toNat, codes) ∈ capitalSequences := by
        rw [hsplit]
        exact List.mem_append_right _ List.mem_cons_self
      have hall := List.all_eq_true.mp sequences_avoid_rules _ hentry
      have hcode := List.all_eq_true.mp (List.all_eq_true.mp hall n hn)
      exact upperChar_ofNat fun r hr => by simpa using hcode r hr
    · next hlookup =>
      split at hd
      · next run hfind =>
        rw [List.mem_singleton.mp hd]
        have hcovers := List.find?_some hfind
        rw [covers_eq_maps] at hcovers
        refine upperChar_ofNat fun r hr => maps_image_of_avoids ?_ hcovers
        exact List.all_eq_true.mp (List.all_eq_true.mp runs_avoid_rules
          r hr) run (List.mem_of_find?_eq_some hfind)
      · next hfind =>
        rw [List.mem_singleton.mp hd]
        unfold upperChar
        rw [if_neg hascii, hlookup, hfind]

-- ================================================================== texts

/-- Upper case stays as it is when it is taken again. -/
theorem upper_upper (s : String) : upper (upper s) = upper s := by
  unfold upper
  rw [String.toList_ofList]
  congr 1
  induction s.toList with
  | nil => rfl
  | cons c cs ih =>
      rw [List.flatMap_cons, List.flatMap_append, ih]
      congr 1
      rw [List.flatMap_congr fun d hd => upperChar_of_mem hd,
        List.flatMap_singleton']

/-- The capitals of ASCII letters are as many letters. -/
theorem upper_of_alpha {cs : List Char} (h : ∀ c ∈ cs, c.isAlpha = true) :
    upper (String.ofList cs) = String.ofList (cs.map Char.toUpper) := by
  unfold upper
  rw [String.toList_ofList]
  congr 1
  rw [List.map_eq_flatMap]
  refine List.flatMap_congr fun c hc => upperChar_ascii ?_
  have := isAlpha_iff_toNat.mp (h c hc)
  omega

/-- Capitals of ASCII are in upper case. -/
theorem upper_of_isUpper {s : String} (h : ∀ c ∈ s.toList, c.isUpper = true) :
    upper s = s := by
  have halpha : ∀ c ∈ s.toList, c.isAlpha = true := fun c hc => by
    rw [Char.isAlpha, h c hc, Bool.true_or]
  have hsame : s.toList.map Char.toUpper = s.toList := by
    refine (List.map_congr_left fun c hc => ?_).trans (List.map_id _)
    exact Char.toUpper_eq_of_not_isLower (Char.not_isLower_of_isUpper (h c hc))
  have hcaps := upper_of_alpha halpha
  rwa [hsame, String.ofList_toList] at hcaps

end Worksheet.Text

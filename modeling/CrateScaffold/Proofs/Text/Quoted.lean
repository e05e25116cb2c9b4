import CrateScaffold.Proofs.Text.Blank
import CrateScaffold.Text.Quoted
import Mathlib.Algebra.Group.Nat.Defs
import Mathlib.Logic.Function.Basic

/-!
Quoted texts and numerals can be read back, also with more text behind them: no two texts begin with
the same quotation, and no number with the digits of another before a character that is no digit.
-/

namespace CrateScaffold.Text

variable {s t u v : Text} {c d mark : Char} {m n : Nat}

theorem digitValue?_digitChar : ∀ d < 16, digitValue? (Nat.digitChar d) = some d := by decide

theorem valueIn_append_digitChar (s : Text) (hd : n < 16) :
    valueIn 16 (s ++ [Nat.digitChar n]) = valueIn 16 s * 16 + n := by
  simp [valueIn, List.foldl_append, digitValue?_digitChar n hd]

theorem valueIn_toDigits (n : Nat) : valueIn 16 (Nat.toDigits 16 n) = n := by
  induction n using Nat.strongRecOn with
  | ind n ih =>
    by_cases hn : n < 16
    · rw [Nat.toDigits_of_lt_base hn]
      simpa [valueIn] using valueIn_append_digitChar [] hn
    · have hlt : n % 16 < 16 := Nat.mod_lt n (by decide)
      rw [Nat.toDigits_of_base_le (by decide) (by omega), valueIn_append_digitChar _ hlt,
        ih (n / 16) (by omega)]
      omega

theorem valueIn_zero_cons (s : Text) : valueIn 16 ('0' :: s) = valueIn 16 s := by
  simp [valueIn, digitValue?]

theorem valueIn_padLeft (w : Nat) (s : Text) : valueIn 16 (padLeft w '0' s) = valueIn 16 s := by
  unfold padLeft
  induction w - s.length with
  | zero => rfl
  | succ k ih => rw [List.replicate_succ, List.cons_append, valueIn_zero_cons, ih]

theorem valueIn_hexDigits (w n : Nat) : valueIn 16 (hexDigits w n) = n := by
  rw [hexDigits, valueIn_padLeft, valueIn_toDigits]

theorem length_hexDigits {w : Nat} (hw : 0 < w) (hn : n < 16 ^ w) :
    (hexDigits w n).length = w := by
  have hlen : (Nat.toDigits 16 n).length ≤ w := (Nat.length_toDigits_le_iff (by decide) hw).2 hn
  simp only [hexDigits, padLeft, List.length_append, List.length_replicate]
  omega

def hexChar (w : Nat) (s : Text) : Char × Text := (Char.ofNat (valueIn 16 (s.take w)), s.drop w)

theorem hexChar_hexDigits {w : Nat} (hw : 0 < w) (hc : c.toNat < 16 ^ w) (s : Text) :
    hexChar w (hexDigits w c.toNat ++ s) = (c, s) := by
  have hlen := length_hexDigits hw hc
  rw [hexChar, List.take_left' hlen, List.drop_left' hlen, valueIn_hexDigits, Char.ofNat_toNat]

def unquoteChar : Text → Option (Char × Text)
  | '\\' :: 't' :: s => some ('\t', s)
  | '\\' :: 'n' :: s => some ('\n', s)
  | '\\' :: 'r' :: s => some ('\r', s)
  | '\\' :: 'x' :: s => some (hexChar 2 s)
  | '\\' :: 'u' :: s => some (hexChar 4 s)
  | '\\' :: 'U' :: s => some (hexChar 8 s)
  | '\\' :: c :: s => some (c, s)
  | c :: s => some (c, s)
  | [] => none

def IsMark (c : Char) : Prop := c = '\'' ∨ c = '"'

theorem isMark_quoteMark (s : Text) : IsMark (quoteMark s) := by
  unfold quoteMark
  split
  · exact .inr rfl
  · exact .inl rfl

theorem toNat_lt_hex (c : Char) : c.toNat < 16 ^ 8 := by
  have hvalid := c.valid
  simp only [UInt32.isValidChar, Nat.isValidChar] at hvalid
  simp only [Char.toNat]
  omega

theorem unquoteChar_quoteChar (hm : IsMark mark) (c : Char) (s : Text) :
    unquoteChar (quoteChar mark c ++ s) = some (c, s) := by
  unfold quoteChar
  split
  · next h =>
    rcases h with rfl | rfl
    · rcases hm with rfl | rfl
      · rfl
      · rfl
    · rfl
  · next h =>
    obtain ⟨-, hback⟩ := not_or.1 h
    split
    · next ht => rw [ht]; rfl
    split
    · next hn => rw [hn]; rfl
    split
    · next hr => rw [hr]; rfl
    split
    · simp [unquoteChar, hback]
    split
    · next hx => exact congrArg some (hexChar_hexDigits (w := 2) (by decide) hx s)
    split
    · next hu => exact congrArg some (hexChar_hexDigits (w := 4) (by decide) hu s)
    · exact congrArg some (hexChar_hexDigits (w := 8) (by decide) (toNat_lt_hex c) s)

theorem quoteChar_append_injective (hm : IsMark mark)
    (h : quoteChar mark c ++ u = quoteChar mark d ++ v) : c = d ∧ u = v := by
  have hread := congrArg unquoteChar h
  rw [unquoteChar_quoteChar hm, unquoteChar_quoteChar hm] at hread
  exact Prod.mk.inj (Option.some.inj hread)

/-- A mark inside a quotation stands behind a backslash. -/
theorem head?_quoteChar_ne (hm : IsMark mark) (c : Char) (s : Text) :
    (quoteChar mark c ++ s).head? ≠ some mark := by
  have hback : '\\' ≠ mark := by
    rcases hm with rfl | rfl
    · decide
    · decide
  unfold quoteChar
  split
  · simpa using hback
  · next h =>
    repeat' split
    all_goals simp_all [not_or]

/-- The mark at the end bounds what is quoted. -/
theorem quoteChars_append_injective (hm : IsMark mark)
    (h : s.flatMap (quoteChar mark) ++ mark :: u = t.flatMap (quoteChar mark) ++ mark :: v) :
    s = t ∧ u = v := by
  induction s generalizing t with
  | nil =>
    cases t with
    | nil => exact ⟨rfl, (List.cons.inj h).2⟩
    | cons d t =>
      rw [List.flatMap_cons, List.append_assoc] at h
      exact absurd (congrArg List.head? h).symm (head?_quoteChar_ne hm d _)
  | cons c s ih =>
    rw [List.flatMap_cons, List.append_assoc] at h
    cases t with
    | nil => exact absurd (congrArg List.head? h) (head?_quoteChar_ne hm c _)
    | cons d t =>
      rw [List.flatMap_cons, List.append_assoc] at h
      obtain ⟨rfl, hrest⟩ := quoteChar_append_injective hm h
      obtain ⟨rfl, huv⟩ := ih hrest
      exact ⟨rfl, huv⟩

theorem quote_append_injective (h : quote s ++ u = quote t ++ v) : s = t ∧ u = v := by
  simp only [quote, List.cons_append, List.append_assoc, List.nil_append] at h
  obtain ⟨hmark, hrest⟩ := List.cons.inj h
  rw [hmark] at hrest
  exact quoteChars_append_injective (isMark_quoteMark t) hrest

theorem quote_injective : Function.Injective quote := fun s t h =>
  (quote_append_injective (u := []) (v := []) (by rw [h])).1

theorem ofNat_injective (h : ofNat m = ofNat n) : m = n := by
  have hread := congrArg (Nat.ofDigitChars 10 · 0) h
  simpa [ofNat] using hread

/-- A character that is no digit bounds a numeral. -/
theorem ofNat_append_injective (hc : c.isDigit = false)
    (h : ofNat m ++ c :: u = ofNat n ++ c :: v) : m = n ∧ u = v := by
  have hdigits : ∀ k, (ofNat k).all Char.isDigit = true := fun k =>
    List.all_eq_true.2 fun _ hd => Nat.isDigit_of_mem_toDigits (by decide) (by decide) hd
  have htake := congrArg (List.takeWhile Char.isDigit) h
  rw [takeWhile_run (hdigits m) hc, takeWhile_run (hdigits n) hc] at htake
  have hmn := ofNat_injective htake
  rw [hmn] at h
  exact ⟨hmn, (List.cons.inj (List.append_cancel_left h)).2⟩

end CrateScaffold.Text

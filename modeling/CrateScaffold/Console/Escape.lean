import CrateScaffold.Text.Basic

/-!
Escape sequences of terminals. What is not printed on a terminal is printed without them.
-/

namespace CrateScaffold.Console

def sequence? : Text → Option Text
  | '\x1b' :: '[' :: s =>
    match s.dropWhile fun c => c == ';' || c == '?' || c.isDigit with
    | [] => none
    | c :: r => if c.isAlpha then some r else none
  | _ => none

theorem length_lt_of_sequence? {s r : Text} (h : sequence? s = some r) : r.length < s.length := by
  unfold sequence? at h
  split at h
  · next s =>
    have hle :=
      (List.dropWhile_sublist (l := s) fun c => c == ';' || c == '?' || c.isDigit).length_le
    split at h
    · cases h
    · next c r' hr =>
      rw [hr] at hle
      split at h
      · cases h
        simp only [List.length_cons] at *
        omega
      · cases h
  · cases h

def withoutSequences (s : Text) : Text :=
  match s with
  | [] => []
  | c :: t =>
    match h : sequence? (c :: t) with
    | some r =>
      have : r.length < t.length + 1 := length_lt_of_sequence? h
      withoutSequences r
    | none => c :: withoutSequences t
  termination_by s.length

end CrateScaffold.Console

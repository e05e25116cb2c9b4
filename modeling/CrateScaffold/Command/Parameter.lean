import CrateScaffold.Text.Basic

/-!
Parameters of a command line and their occurrences in it. A long spelling may carry its value after
an equals sign, a short one directly; short flags may share a hyphen. After two hyphens nothing is a
parameter any more.
-/

namespace CrateScaffold.Command

structure PathRule where
  mustExist : Bool
  fileAllowed : Bool
  dirAllowed : Bool
  deriving DecidableEq, Repr

inductive Form where
  | flag
  | text
  | integer
  | choice (names : List Text)
  | path (rule : PathRule)
  deriving DecidableEq, Repr

/-- The negations unset a flag. Where the command line gives no value, the variable with this key
does, and then the usual one is taken. -/
structure Parameter where
  name : Text
  spellings : List Text
  negations : List Text
  form : Form
  usual : Option Text
  key : Option Text
  deriving DecidableEq, Repr

inductive Given where
  | on
  | off
  | value (s : Text)
  deriving DecidableEq, Repr

def Given.value? : Given → Option Text
  | .value s => some s
  | _ => none

structure Occurrence where
  parameter : Parameter
  given : Given
  deriving DecidableEq, Repr

inductive WordFault where
  | unknown (spelling : Text)
  | needsValue (spelling : Text)
  | takesNone (spelling : Text)
  deriving DecidableEq, Repr

def WordFault.message : WordFault → Text
  | .unknown s => "No such option '" ++ s ++ "'."
  | .needsValue s => "Option '" ++ s ++ "' requires an argument."
  | .takesNone s => "Option '" ++ s ++ "' does not take a value."

def spelled? (ps : List Parameter) (s : Text) : Option (Parameter × Bool) :=
  match ps.find? fun p => p.spellings.contains s || p.negations.contains s with
  | some p => some (p, p.spellings.contains s)
  | none => none

def takeNext (p : Parameter) (spelling : Text) (next : Option Text) :
    Except WordFault (Occurrence × Bool) :=
  match next with
  | some v => .ok (⟨p, .value v⟩, true)
  | none => .error (.needsValue spelling)

def readLetters (ps : List Parameter) (next : Option Text) :
    Text → Except WordFault (List Occurrence × Bool)
  | [] => .ok ([], false)
  | c :: cs =>
    match spelled? ps ['-', c] with
    | none => .error (.unknown ['-', c])
    | some (p, on) =>
      if p.form = .flag then do
        let (os, taken) ← readLetters ps next cs
        return (⟨p, if on then .on else .off⟩ :: os, taken)
      else if cs = [] then (takeNext p ['-', c] next).map fun x => ([x.1], x.2)
      else .ok ([⟨p, .value cs⟩], false)

def readLong (p : Parameter) (on : Bool) (spelling : Text) (value : Option Text)
    (next : Option Text) : Except WordFault (Occurrence × Bool) :=
  match p.form, value with
  | .flag, none => .ok (⟨p, if on then .on else .off⟩, false)
  | .flag, some _ => .error (.takesNone spelling)
  | _, some v => .ok (⟨p, .value v⟩, false)
  | _, none => takeNext p spelling next

def isLong (s : Text) : Bool := s.length != 2

def splitValue (w : Text) : Text × Option Text :=
  match Text.cut? ['='] w with
  | some (s, v) => (s, some v)
  | none => (w, none)

def readWord (ps : List Parameter) (w : Text) (next : Option Text) :
    Except WordFault (List Occurrence × Bool) :=
  let (s, value) := splitValue w
  match if isLong s then spelled? ps s else none with
  | some (p, on) => (readLong p on s value next).map fun x => ([x.1], x.2)
  | none =>
    if Text.startsWith w ['-', '-'] then .error (.unknown s)
    else readLetters ps next (w.drop 1)

def isParameterWord (w : Text) : Bool := w.head? == some '-' && 1 < w.length

structure Line where
  given : List Occurrence
  words : List Text

def Line.add (os : List Occurrence) (l : Line) : Line := { l with given := os ++ l.given }

def Line.read (ps : List Parameter) (anywhere : Bool) : List Text → Except WordFault Line
  | [] => .ok ⟨[], []⟩
  | w :: ws =>
    if w = ['-', '-'] then .ok ⟨[], ws⟩
    else if isParameterWord w then
      match readWord ps w ws.head? with
      | .error f => .error f
      | .ok (os, taken) =>
        match taken, ws with
        | true, _ :: ws => (Line.read ps anywhere ws).map (·.add os)
        | _, ws => (Line.read ps anywhere ws).map (·.add os)
    else if anywhere then
      (Line.read ps anywhere ws).map fun l => { l with words := w :: l.words }
    else .ok ⟨[], w :: ws⟩

namespace Line

def last? (l : Line) (p : Parameter) : Option Given :=
  (l.given.filter (·.parameter.name == p.name)).getLast?.map Occurrence.given

def isSet (l : Line) (p : Parameter) : Bool := l.last? p == some .on

def value? (l : Line) (environment : List (Text × Text)) (p : Parameter) : Option Text :=
  let inherited := (p.key.bind (environment.lookup ·)).filter (!·.isEmpty)
  (((l.last? p).bind Given.value?).or inherited).or p.usual

def occurring (l : Line) : List Parameter := (l.given.map Occurrence.parameter).eraseDups

end Line

end CrateScaffold.Command

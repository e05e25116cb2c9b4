import CrateScaffold.Template.Token
import CrateScaffold.Value.Basic

/-!
What can go wrong with a template: it is not there, it cannot be read, a filter or test is unknown,
or a value is not of the kind that an operation needs.
-/

namespace CrateScaffold.Template

inductive KindFault where
  | operands (operator left right : Text)
  | concatenation (left right : Text)
  | repetition (kind : Text)
  | sign (operator kind : Text)
  | order (operator left right : Text)
  | container (kind : Text)
  | inText (kind : Text)
  | iteration (kind : Text)
  | reversal (kind : Text)
  | length (kind : Text)
  | hash (kind : Text)
  | call (kind : Text)
  | integer (kind : Text)
  | unpacking (kind : Text)
  | argument (function : Text) (position : Nat) (kind : Text)
  | separator (kind : Text)
  | format
  | tooFew (function : Text) (least given : Nat)
  | tooMany (function : Text) (most given : Nat)
  | none (function : Text) (given : Nat)
  | receiver
  deriving DecidableEq, Repr

def plural (n : Nat) (s : Text) : Text := Text.ofNat n ++ ' ' :: s ++ if n = 1 then [] else ['s']

def KindFault.message : KindFault → Text
  | .operands op l r => "unsupported operand type(s) for " ++ op ++ ": '" ++ l ++ "' and '" ++ r ++
      "'"
  | .concatenation l r => "can only concatenate " ++ l ++ " (not \"" ++ r ++ "\") to " ++ l
  | .repetition k => "can't multiply sequence by non-int of type '" ++ k ++ "'"
  | .sign op k => "bad operand type for unary " ++ op ++ ": '" ++ k ++ "'"
  | .order op l r => "'" ++ op ++ "' not supported between instances of '" ++ l ++ "' and '" ++ r ++
      "'"
  | .container k => "argument of type '" ++ k ++ "' is not iterable"
  | .inText k => "'in <string>' requires string as left operand, not " ++ k
  | .iteration k => "'" ++ k ++ "' object is not iterable"
  | .reversal k => "'" ++ k ++ "' object is not reversible"
  | .length k => "object of type '" ++ k ++ "' has no len()"
  | .hash k => "unhashable type: '" ++ k ++ "'"
  | .call k => "'" ++ k ++ "' object is not callable"
  | .integer k => "'" ++ k ++ "' object cannot be interpreted as an integer"
  | .unpacking k => "cannot unpack non-iterable " ++ k ++ " object"
  | .argument f n k => f ++ "() argument " ++ Text.ofNat n ++ " must be str, not " ++ k
  | .separator k => "must be str or None, not " ++ k
  | .format => "not all arguments converted during string formatting"
  | .tooFew f n given => f ++ " expected at least " ++ plural n "argument" ++ ", got " ++
      Text.ofNat given
  | .tooMany f n given => f ++ " expected at most " ++ plural n "argument" ++ ", got " ++
      Text.ofNat given
  | .none f given => f ++ "() takes no arguments (" ++ Text.ofNat given ++ " given)"
  | .receiver => "Template.render() got multiple values for argument 'self'"

inductive RangeFault where
  | unpackFew (expected given : Nat)
  | unpackMany (expected : Nat)
  | zeroStep
  | emptySeparator
  deriving DecidableEq, Repr

def RangeFault.message : RangeFault → Text
  | .unpackFew e g => "not enough values to unpack (expected " ++ Text.ofNat e ++ ", got " ++
      Text.ofNat g ++ ")"
  | .unpackMany e => "too many values to unpack (expected " ++ Text.ofNat e ++ ")"
  | .zeroStep => "range() arg 3 must not be zero"
  | .emptySeparator => "empty separator"

inductive ZeroFault where
  | integerQuotient
  | integerRemainder
  | quotient
  | floatQuotient
  | floatWhole
  | floatRemainder
  | power
  deriving DecidableEq, Repr

def ZeroFault.message : ZeroFault → Text
  | .integerQuotient => "integer division or modulo by zero"
  | .integerRemainder => "integer modulo by zero"
  | .quotient => "division by zero"
  | .floatQuotient => "float division by zero"
  | .floatWhole => "float floor division by zero"
  | .floatRemainder => "float modulo"
  | .power => "0.0 cannot be raised to a negative power"

inductive NameFault where
  | filter (name : Text) (line : Nat)
  | test (name : Text) (line : Nat)
  | loopTarget (line : Nat)
  deriving DecidableEq, Repr

def NameFault.line : NameFault → Nat
  | .filter _ l => l
  | .test _ l => l
  | .loopTarget l => l

def NameFault.message (f : NameFault) : Text :=
  let what : Text := match f with
    | .filter n _ => "No filter named " ++ Text.quote n ++ "."
    | .test n _ => "No test named " ++ Text.quote n ++ "."
    | .loopTarget _ => "Can't assign to special loop variable in for-loop target"
  what ++ "\n  File \"<introspection>\", line " ++ Text.ofNat f.line

inductive FaultKind where
  | refusal
  | system
  | template
  | other
  deriving DecidableEq, Repr

structure EngineFault where
  kind : FaultKind
  message : Text
  deriving DecidableEq, Repr

inductive Fault where
  | unread (f : SyntaxFault)
  | unknown (f : NameFault)
  | unavailable (what name : Text)
  | undefined (m : Missing)
  | kind (f : KindFault)
  | range (f : RangeFault)
  | zero (f : ZeroFault)
  | engine (f : EngineFault)
  | uncovered
  deriving DecidableEq, Repr

def Fault.ofSyntax : SyntaxFault → Fault
  | .uncovered => .uncovered
  | f => .unread f

def Fault.message : Fault → Text
  | .unread f => f.message
  | .unknown f => f.message
  | .unavailable what n => "No " ++ what ++ " named " ++ Text.quote n ++ " found."
  | .undefined m => m.message
  | .kind f => f.message
  | .range f => f.message
  | .zero f => f.message
  | .engine f => f.message
  | .uncovered => "not covered"

end CrateScaffold.Template

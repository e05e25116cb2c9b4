import CrateScaffold.Template.Filter
import CrateScaffold.Template.Scope

/-!
Names of filters and tests, checked before rendering. Inside a condition or one of its branches an
unknown one is allowed, since it may never be used.
-/

namespace CrateScaffold.Template

mutual

def Expr.unknown? : Expr → Option NameFault
  | .const _ => none
  | .name .. => none
  | .list es => unknownIn? es
  | .tuple es => unknownIn? es
  | .dict es => unknownIn? es
  | .attribute e _ => e.unknown?
  | .item e i => e.unknown?.or i.unknown?
  | .call f es => f.unknown?.or (unknownIn? es)
  | .filter n line e es =>
    if isFilter n then e.unknown?.or (unknownIn? es) else some (.filter n line)
  | .test n line e es =>
    if isTest n then e.unknown?.or (unknownIn? es) else some (.test n line)
  | .negate e => e.unknown?
  | .plus e => e.unknown?
  | .not e => e.unknown?
  | .arith _ l r => l.unknown?.or r.unknown?
  | .concat es => unknownIn? es
  | .compare e _ es => e.unknown?.or (unknownIn? es)
  | .and l r => l.unknown?.or r.unknown?
  | .or l r => l.unknown?.or r.unknown?
  | .branch .. => none
  | .choice .. => none

def unknownIn? : List Expr → Option NameFault
  | [] => none
  | e :: es => e.unknown?.or (unknownIn? es)

end

def loopAssigned? (t : Target) : Option Nat := t.names.lookup loopName

mutual

def Node.assignsLoop? : Node → Option Nat
  | .text _ => none
  | .print _ => none
  | .choose bs other => (branchesAssignLoop? bs).or (anyAssignsLoop? other)
  | .each t _ _ body other =>
    (loopAssigned? t).or ((anyAssignsLoop? body).or (anyAssignsLoop? other))
  | .assign t _ => loopAssigned? t
  | .capture t body => (loopAssigned? t).or (anyAssignsLoop? body)

def anyAssignsLoop? : List Node → Option Nat
  | [] => none
  | n :: ns => n.assignsLoop?.or (anyAssignsLoop? ns)

def branchesAssignLoop? : List Branch → Option Nat
  | [] => none
  | .of _ body :: bs => (anyAssignsLoop? body).or (branchesAssignLoop? bs)

end

mutual

/-- The first fault in a node; `soft` says that it stands in a branch. -/
def Node.fault? (soft : Bool) : Node → Option NameFault
  | .text _ => none
  | .print e => if soft then none else e.unknown?
  | .choose bs other => (branchFault? bs).or (nodesFault? true other)
  | .each t source test body other =>
    (test.bind Expr.unknown?).or
      (((Node.each t source test body other).assignsLoop?.map .loopTarget).or
        ((if soft then none else source.unknown?).or
          ((nodesFault? false body).or (nodesFault? false other))))
  | .assign _ e => if soft then none else e.unknown?
  | .capture _ body => nodesFault? false body

def nodesFault? (soft : Bool) : List Node → Option NameFault
  | [] => none
  | n :: ns => (n.fault? soft).or (nodesFault? soft ns)

def branchFault? : List Branch → Option NameFault
  | [] => none
  | .of _ body :: bs => (nodesFault? true body).or (branchFault? bs)

end

end CrateScaffold.Template

import Reconciler.Failure

/-!
Scripted failures. A rule names a point where calls are made and what goes wrong there; it may let
some calls pass first and wears off after a number of times.
-/
namespace Reconciler

/-- What goes wrong at a call. -/
inductive Mishap
  | cloud (kind : CloudErrorKind) (message : String)
  | failure (failure : Failure)
  | ssh (message : String)
  | crash
  /-- The call seems to succeed and does nothing. -/
  | lost

structure Rule where
  /-- The part and the method, such as `cloud.create_vm`. -/
  point : String
  /-- Only calls about this are meant. -/
  argument : Option String
  skip : Nat
  /-- How often it still applies; without a number, always. -/
  left : Option Nat
  mishap : Mishap

namespace Rule

def matchesCall (rule : Rule) (point : String) (argument : Option String) : Bool :=
  rule.point == point && rule.left != some 0 &&
    rule.argument.all fun wanted => argument == some wanted

/-- Tries the rules in order. A rule that lets a call pass is passed over. -/
def fire (point : String) (argument : Option String) : List Rule → Option Mishap × List Rule
  | [] => (none, [])
  | rule :: rest =>
    if rule.matchesCall point argument then
      if rule.skip = 0 then
        (some rule.mishap, { rule with left := rule.left.map (· - 1) } :: rest)
      else
        let (mishap, rest) := fire point argument rest
        (mishap, { rule with skip := rule.skip - 1 } :: rest)
    else
      let (mishap, rest) := fire point argument rest
      (mishap, rule :: rest)

end Rule

end Reconciler

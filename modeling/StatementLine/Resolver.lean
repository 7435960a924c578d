import StatementLine.Lookup
import StatementLine.Program

/-! Resolvers answer the lookups of a line: with a text that replaces the reference, by leaving
it as it stands, or with an error that ends the line. A resolver may keep a state. -/

universe u

namespace StatementLine

inductive Resolution where
  | replaced (text : String)
  | unhandled
deriving Repr, DecidableEq

inductive ResolveError where
  | cannotStart (command : String) (failure : StartFailure)
  | failed (command : String) (status : ExitStatus)
  | outputNotUtf8 (output : List UInt8)
  | message (text : String)
deriving Repr, DecidableEq

def ResolveError.text : ResolveError → String
  | .cannotStart command failure => "cannot run `" ++ command ++ "`: " ++ failure.message
  | .failed command status => "`" ++ command ++ "` failed: " ++ status.text
  | .outputNotUtf8 _ => "command output is not valid UTF-8"
  | .message text => text

abbrev Answer := Except ResolveError Resolution

/-- An answer, the commands that were run for it, and the state that is left. -/
structure Reply (σ : Type u) where
  answer : Answer
  invocations : List Invocation
  state : σ

abbrev Resolver (σ : Type u) := Lookup → σ → Reply σ

namespace Resolver

def literal {σ : Type u} : Resolver σ := fun _ state => ⟨.ok .unhandled, [], state⟩

def scripted : Resolver (List Answer) := fun _ answers =>
  match answers with
  | [] => ⟨.ok .unhandled, [], []⟩
  | answer :: later => ⟨answer, [], later⟩

def recorded {σ : Type u} (resolver : Resolver σ) : Resolver (σ × List Lookup) :=
  fun lookup (state, lookups) =>
    let reply := resolver lookup state
    ⟨reply.answer, reply.invocations, (reply.state, lookups ++ [lookup])⟩

end Resolver

end StatementLine

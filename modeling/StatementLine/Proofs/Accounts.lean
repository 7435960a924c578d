import StatementLine.Proofs.LineGrammar
import StatementLine.Proofs.Stream

/-!
Accounts of a line. Every result that a line comes to has one: the lookups that are put to the
resolver for its sake, with what was answered and run, and the result itself. Accounts are read off
the segmentation of the line; `readToken_events` says that reading a token tells of its lookups.
-/

universe u

namespace StatementLine

variable {σ : Type u}

/-- A lookup that was put to a resolver, what it answered and what was run for it. -/
structure Exchange where
  lookup : Lookup
  answer : Answer
  invocations : List Invocation

namespace Exchange

def unresolved? (exchange : Exchange) : Option Lookup :=
  match exchange.answer with
  | .error _ => none
  | .ok (.replaced _) => none
  | .ok .unhandled => some exchange.lookup

def events (exchange : Exchange) : List Event :=
  exchange.invocations.map .running ++ (exchange.unresolved?.map .unresolved).toList

end Exchange

def Resolver.exchange (resolver : Resolver σ) (lookup : Lookup) (state : σ) : Exchange :=
  ⟨lookup, (resolver lookup state).answer, (resolver lookup state).invocations⟩

def exchanges (resolver : Resolver σ) : List Lookup → σ → List Exchange
  | [], _ => []
  | lookup :: later, state =>
      resolver.exchange lookup state ::
        match (resolver lookup state).answer with
        | .error _ => []
        | .ok _ => exchanges resolver later (resolver lookup state).state

structure Account where
  exchanges : List Exchange
  result : Except LineError String

namespace Account

def lookups (account : Account) : List Lookup :=
  account.exchanges.map Exchange.lookup

def token? (account : Account) : Option String :=
  account.result.toOption

def events (account : Account) : List Event :=
  account.exchanges.flatMap Exchange.events ++ (account.token?.map .token).toList

def ofGroup (resolver : Resolver σ) (segments : List Segment) (error? : Option QuoteError)
    (state : σ) : Account :=
  ⟨StatementLine.exchanges resolver (lookupsOf segments) state,
    groupResult error? (evaluateGroup resolver segments state).1⟩

end Account

/-- The accounts of groups in turn, up to the first error. -/
def accountsOf (resolver : Resolver σ) (broken? : Option BrokenGroup) :
    List (List Segment) → σ → List Account
  | [], state =>
      match broken? with
      | none => []
      | some broken => [.ofGroup resolver broken.segments (some broken.error) state]
  | group :: later, state =>
      let account := Account.ofGroup resolver group none state
      match account.result with
      | .error _ => [account]
      | .ok _ => account :: accountsOf resolver broken? later (evaluateGroup resolver group state).2

def Segmentation.accounts (resolver : Resolver σ) (layout : Segmentation) (state : σ) :
    List Account :=
  accountsOf resolver layout.broken? layout.groups state

def Resolver.Logs {α : Type} (resolver : Resolver σ) (part : σ → List α)
    (note : Exchange → List α) : Prop :=
  ∀ lookup state, part (resolver lookup state).state =
    part state ++ note (resolver.exchange lookup state)

section

variable {τ : Type u} {fine : Resolver τ} {coarse : Resolver σ} {part : τ → σ}

end

namespace Reader

def accounts (resolver : Resolver σ) (reader : Reader) (state : σ) : List Account :=
  if reader.finished then [] else (segmentation reader.unread).accounts resolver state

end Reader

end StatementLine

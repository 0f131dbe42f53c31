/-!
Programs as dialogues: a program asks its surroundings for something, gets an answer, and goes on
with it. What the answers are is not the program's business, so a statement about all answers is
a statement about all surroundings.
-/
namespace SwitchLab

/-- What may be asked, and the type of each answer. -/
structure Interface where
  Request : Type
  Reply : Request → Type

inductive Dialogue (I : Interface) (α : Type) : Type where
  | done (a : α) : Dialogue I α
  | ask (q : I.Request) (next : I.Reply q → Dialogue I α) : Dialogue I α

/-- A request with the answer it got. -/
structure Exchange (I : Interface) where
  request : I.Request
  reply : I.Reply request

abbrev Trace (I : Interface) := List (Exchange I)

namespace Dialogue

variable {I : Interface} {α β σ : Type}

def bind : Dialogue I α → (α → Dialogue I β) → Dialogue I β
  | done a, f => f a
  | ask q next, f => ask q fun r => (next r).bind f

instance : Monad (Dialogue I) where
  pure := done
  bind := bind

/-- One request. -/
def request (q : I.Request) : Dialogue I (I.Reply q) := ask q done

/-- `Runs p t a`: with the answers in `t`, the program `p` asks just the requests of `t` and
ends with `a`. -/
inductive Runs : Dialogue I α → Trace I → α → Prop where
  | done (a : α) : Runs (.done a) [] a
  | ask {q : I.Request} {next : I.Reply q → Dialogue I α} {r : I.Reply q} {t : Trace I} {a : α} :
    Runs (next r) t a → Runs (.ask q next) (⟨q, r⟩ :: t) a

/-- The run in surroundings that answer from a state of their own. -/
def run (answer : (q : I.Request) → σ → I.Reply q × σ) : Dialogue I α → σ → α × σ
  | done a, s => (a, s)
  | ask q next, s => let (r, s') := answer q s; (next r).run answer s'

instance : LawfulMonad (Dialogue I) := LawfulMonad.mk' _
  (fun p => by
    show bind p done = p
    induction p with
    | done a => rfl
    | ask q next ih => simp [bind, ih])
  (fun _ _ => rfl)
  (fun p f g => by
    show bind (bind p f) g = bind p fun a => bind (f a) g
    induction p with
    | done a => rfl
    | ask q next ih => simp [bind, ih])

end Dialogue

end SwitchLab

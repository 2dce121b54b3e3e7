import Mathlib.Data.List.SplitBy
import SqlForge.Select.Render

/-!
How written conditions are read: the conditions themselves are atoms, parentheses group, and AND
binds tighter than OR.
-/

namespace SqlForge

/-- Written conditions, in pieces. Atoms are numbered. -/
inductive Token where
  | atom (condition : Condition) (n : Nat)
  | connective (c : Connective)
  | opening
  | closing

namespace Token

def write (g : Grammar) : Token → Except Failure String
  | .atom condition _ => Sql.text <$> condition.render g
  | .connective c => .ok (" " ++ c.sql ++ " ")
  | .opening => .ok "("
  | .closing => .ok ")"

def writeAll (g : Grammar) : List Token → Except Failure String
  | [] => .ok ""
  | token :: tokens => do
    let first ← token.write g
    let rest ← writeAll g tokens
    return first ++ rest

def atom? : Token → Option (Condition × Nat)
  | .atom condition n => some (condition, n)
  | _ => none

def awaits : Token → Bool
  | .connective _ | .opening => true
  | .atom .. | .closing => false

def starts : Token → Bool
  | .atom .. | .opening => true
  | .connective _ | .closing => false

/-- What may stand next to each other: where an operand is due, one starts. -/
def Follows (token next : Token) : Prop :=
  token.awaits → next.starts

end Token

/-! ### Reading -/

/-- What is read of the conditions at one level of parentheses. -/
structure Frame where
  earlier : Bool
  run : Bool

namespace Frame

def start : Frame := ⟨false, true⟩

def and (frame : Frame) (value : Bool) : Frame :=
  { frame with run := frame.run && value }

def value (frame : Frame) : Bool :=
  frame.earlier || frame.run

def or (frame : Frame) : Frame :=
  ⟨frame.value, true⟩

def extend (frame : Frame) : Connective × Bool → Frame
  | (.and, value) => frame.and value
  | (.or, value) => frame.or.and value

end Frame

mutual
/-- Reads on where an operand is due. `outer` are the levels that are still open. -/
def readOperand (σ : Nat → Bool) (outer : List Frame) (frame : Frame) : List Token → Option Bool
  | .atom _ n :: tokens => readRest σ outer (frame.and (σ n)) tokens
  | .opening :: tokens => readOperand σ (frame :: outer) .start tokens
  | .connective _ :: _ | .closing :: _ | [] => none

def readRest (σ : Nat → Bool) (outer : List Frame) (frame : Frame) : List Token → Option Bool
  | [] =>
    match outer with
    | [] => some frame.value
    | _ :: _ => none
  | .connective .and :: tokens => readOperand σ outer frame tokens
  | .connective .or :: tokens => readOperand σ outer frame.or tokens
  | .closing :: tokens =>
    match outer with
    | [] => none
    | before :: outer => readRest σ outer (before.and frame.value) tokens
  | .atom .. :: _ | .opening :: _ => none
end

/-- The value of written conditions, if they can be read at all. -/
def read (σ : Nat → Bool) (tokens : List Token) : Option Bool :=
  readOperand σ [] .start tokens

mutual
theorem isChain_of_readOperand {σ : Nat → Bool} {outer : List Frame} {frame : Frame}
    {tokens : List Token} {value : Bool} (token : Token)
    (h : readOperand σ outer frame tokens = some value)
    : (token :: tokens).IsChain Token.Follows := by
  cases tokens with
  | nil =>
    rw [readOperand] at h
    contradiction
  | cons next tokens =>
    cases next with
    | atom condition n =>
      rw [readOperand] at h
      exact .cons_cons (fun _ => rfl) (isChain_of_readRest rfl h)
    | opening =>
      rw [readOperand] at h
      exact .cons_cons (fun _ => rfl) (isChain_of_readOperand .opening h)
    | _ =>
      rw [readOperand] at h
      contradiction

theorem isChain_of_readRest {σ : Nat → Bool} {outer : List Frame} {frame : Frame}
    {tokens : List Token} {value : Bool} {token : Token} (htoken : token.awaits = false)
    (h : readRest σ outer frame tokens = some value)
    : (token :: tokens).IsChain Token.Follows := by
  have hfollows : ∀ next, token.Follows next := by
    intro next hawaits
    rw [htoken] at hawaits
    contradiction
  cases tokens with
  | nil => exact .singleton token
  | cons next tokens =>
    cases next with
    | connective c =>
      cases c with
      | and =>
        rw [readRest] at h
        exact .cons_cons (hfollows _) (isChain_of_readOperand _ h)
      | or =>
        rw [readRest] at h
        exact .cons_cons (hfollows _) (isChain_of_readOperand _ h)
    | closing =>
      cases outer with
      | nil =>
        rw [readRest] at h
        contradiction
      | cons before outer =>
        rw [readRest] at h
        exact .cons_cons (hfollows _) (isChain_of_readRest rfl h)
    | _ =>
      rw [readRest] at h
      contradiction
end

/-- What can be read neither starts with a connective nor has an empty pair of parentheses. -/
theorem isChain_of_read {σ : Nat → Bool} {tokens : List Token} {value : Bool}
    (h : read σ tokens = some value) : (Token.opening :: tokens).IsChain Token.Follows :=
  isChain_of_readOperand .opening h

/-! ### Meaning -/

/-- Whether one of the longest runs of ANDs holds. The first connective joins nothing. -/
def anyRun (values : List (Connective × Bool)) : Bool :=
  (values.splitBy fun _ next => next.1 = .and).any fun run => run.all (·.2)

theorem anyRun_loop (values : List (Connective × Bool)) (last : Connective × Bool)
    (run : List (Connective × Bool)) (runs : List (List (Connective × Bool)))
    : ((List.splitBy.loop (fun _ next => next.1 = .and) values last run runs).any fun run =>
          run.all (·.2))
        = (values.foldl Frame.extend
            ⟨runs.any fun run => run.all (·.2), last.2 && run.all (·.2)⟩).value := by
  induction values generalizing last run runs with
  | nil => simp [List.splitBy.loop, Frame.value, Bool.or_comm, Bool.and_comm]
  | cons value values ih =>
    obtain ⟨c, holds⟩ := value
    rw [List.splitBy.loop, List.foldl_cons]
    cases c with
    | and =>
      have hrun : (holds && (last.2 && run.all (·.2))) = (last.2 && run.all (·.2) && holds) :=
        Bool.and_comm ..
      simp only [decide_true, ih, List.all_cons, hrun, Frame.extend, Frame.and]
    | or =>
      have hruns : (((last :: run).reverse :: runs).any fun run => run.all (·.2))
          = (runs.any (fun run => run.all (·.2)) || (last.2 && run.all (·.2))) := by
        rw [List.any_cons, List.all_reverse, List.all_cons, Bool.or_comm]
      simp only [reduceCtorEq, decide_false, ih, hruns, List.all_nil, Bool.and_true, Frame.extend,
        Frame.and, Frame.or, Frame.value, Bool.true_and]

theorem anyRun_cons (c : Connective) (value : Bool) (values : List (Connective × Bool))
    : anyRun ((c, value) :: values)
        = (values.foldl Frame.extend (Frame.start.and value)).value := by
  unfold anyRun
  rw [List.splitBy, anyRun_loop]
  simp [Frame.start, Frame.and]

end SqlForge

import Mathlib.Data.List.Basic
import Mathlib.Logic.Function.Basic
import Mathlib.Tactic.Common

/-!
# Lifecycles of handles

A program keeps handles in variables: it creates one by a call that may fail, uses it, destroys
it, and assigns null. `Prog` is a language of such programs with their control flow: tests of
variables, of flags and of whatever the environment decides (data, and which calls fail), early
returns, and a `throw` with its handler. `exec` runs one from a store, and stops at the first
`Misuse`: a handle destroyed twice, used after its end, or overwritten while it lives.

That a program misuses nothing, whatever the environment answers, is shown in
`OkularV3d.Lib.Explore` by running it on all stores at once.

* `Slot` is what a variable holds: nothing yet, null, a live handle, or one whose end has come.
* `Op.apply` is an operation on one variable, `Cond.eval` a test, `exec` a run.
* `Outcome` is how a run ends: left with a store, or stopped by a misuse.
-/

namespace OkularV3d.Handles

/-- What a variable that is to hold a handle contains. -/
inductive Slot where
  /-- No value yet: the variable has no initialiser. -/
  | unset
  | null
  | live
  /-- The handle it held was destroyed, and the variable not reset. -/
  | dangling
  deriving DecidableEq, Repr

/-- The ways to misuse a variable. -/
inductive Misuse where
  /-- A value that never was a handle is destroyed or used. -/
  | neverCreated
  | destroyedTwice
  | usedAfterDestroy
  /-- A live handle is overwritten, and with it lost. -/
  | overwritten
  deriving DecidableEq, Repr

/-- What a program does to a variable. -/
inductive Op where
  | create
  | destroy
  | use
  /-- The assignment of null. -/
  | clear
  /-- The end of the handle with the resource it belongs to, as a mapping ends with its memory. -/
  | expire
  deriving DecidableEq, Repr

/-- The content of a variable after an operation. Destroying null does nothing, and null may be
passed where a handle is used. -/
def Op.apply : Op → Slot → Except Misuse Slot
  | .create, .live | .clear, .live => .error .overwritten
  | .create, _ => .ok .live
  | .clear, _ => .ok .null
  | .destroy, .live => .ok .dangling
  | .destroy, .dangling => .error .destroyedTwice
  | .use, .dangling => .error .usedAfterDestroy
  | .destroy, .unset | .use, .unset => .error .neverCreated
  | .expire, .live => .ok .dangling
  | _, slot => .ok slot

/-! ### Programs -/

/-- A test: of a flag, of a variable against null, or of the environment. An uninitialised
variable counts as set. -/
inductive Cond (H F I : Type) where
  | flag (f : F)
  | isSet (h : H)
  | ask (i : I)
  | not (c : Cond H F I)
  | and (c d : Cond H F I)
  | or (c d : Cond H F I)

/-- A program over the variables `H` and the flags `F`, in an environment that answers the
questions `I`. -/
inductive Prog (H F I : Type) where
  | skip
  | throw
  | ret
  | op (o : Op) (h : H)
  | setFlag (f : F) (b : Bool)
  | branch (c : Cond H F I) (p q : Prog H F I)
  | seq (p q : Prog H F I)
  /-- `try { p } catch { q }`. -/
  | attempt (p q : Prog H F I)
  /-- The call of a function `p`; `q` is what the caller does where it returned early. -/
  | call (p q : Prog H F I)

/-- Statements one after the other. -/
def Prog.block {H F I : Type} (ps : List (Prog H F I)) : Prog H F I := ps.foldr .seq .skip

/-- The variables and the flags of a running program. -/
structure Store (H F : Type) where
  held : H → Slot
  flag : F → Bool

/-- How a program is left: at its end, by an exception, or by a `return`. -/
inductive Exit where
  | done
  | threw
  | returned
  deriving DecidableEq, Repr

/-- What a run comes to. -/
inductive Outcome (H F : Type) where
  | misuse (m : Misuse) (h : H)
  | exit (e : Exit) (s : Store H F)

section Semantics

variable {H F I : Type} [DecidableEq H] [DecidableEq F] (env : I → Bool)

/-- The value of a test. -/
def Cond.eval (s : Store H F) : Cond H F I → Bool
  | .flag f => s.flag f
  | .isSet h => s.held h != .null
  | .ask i => env i
  | .not c => !c.eval s
  | .and c d => c.eval s && d.eval s
  | .or c d => c.eval s || d.eval s

/-- An operation on one variable of the store. -/
def Store.act (s : Store H F) (o : Op) (h : H) : Outcome H F :=
  match o.apply (s.held h) with
  | .ok slot => .exit .done { s with held := Function.update s.held h slot }
  | .error m => .misuse m h

/-- The run of a program in the environment `env`. -/
def exec : Prog H F I → Store H F → Outcome H F
  | .skip, s => .exit .done s
  | .throw, s => .exit .threw s
  | .ret, s => .exit .returned s
  | .op o h, s => s.act o h
  | .setFlag f b, s => .exit .done { s with flag := Function.update s.flag f b }
  | .branch c p q, s => if c.eval env s then exec p s else exec q s
  | .seq p q, s =>
    match exec p s with
    | .exit .done s' => exec q s'
    | other => other
  | .attempt p q, s =>
    match exec p s with
    | .exit .threw s' => exec q s'
    | other => other
  | .call p q, s =>
    match exec p s with
    | .exit .returned s' => exec q s'
    | other => other

end Semantics

end OkularV3d.Handles

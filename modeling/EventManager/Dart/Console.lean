import EventManager.Dart.Int
import Mathlib.Data.Stream.Defs

/-!
# Console programs

A synchronous Dart console program reads lines, prints, draws random numbers, assigns to its
top-level variables and throws. `Program` is that effect: a state monad over the `World` below an
exception monad, so that what was assigned before a throw stays assigned after it.

`Program.exec p w` is the outcome of `p` in the world `w`. The lemmas below are the simp set that
executes a program symbolically: each primitive rewrites to its outcome, and `exec_bind` passes
the outcome on.
-/

namespace Dart

/-- The exceptions and errors a modelled program can throw. -/
inductive DartError
  /-- `int.parse` on a text that is no integer literal. -/
  | formatException (source : String)
  /-- The operator `!` on `null`. -/
  | nullCheck
  /-- An implicit or explicit cast to a type the value does not have. -/
  | typeError
  /-- A member called on a dynamic value that does not have it. -/
  | noSuchMethod
  /-- `firstWhere` without a matching element. -/
  | noElement
  deriving DecidableEq, Repr

/-- One call that writes to standard output. -/
inductive Output
  /-- `stdout.write(text)`. -/
  | write (text : String)
  /-- `print(line)`. -/
  | print (line : String)
  deriving DecidableEq, Repr

/-- What a console program reads and writes: its top-level variables of type `σ`, the lines still
to come on standard input, the values its random source will yield, and its output so far. -/
structure World (σ δ : Type) where
  /-- The top-level variables. -/
  store : σ
  /-- The remaining input lines; after the last one `readLineSync` returns `null`. -/
  stdin : List String
  /-- The values the random source yields, in order. -/
  draws : Stream' δ
  /-- Everything written so far. -/
  stdout : List Output

/-- A console program that returns an `α`. -/
abbrev Program (σ δ α : Type) : Type := ExceptT DartError (StateM (World σ δ)) α

namespace Program

variable {σ δ α β : Type}

/-- The outcome of a program: its value or the error it throws, and the world it leaves. -/
def exec (p : Program σ δ α) (w : World σ δ) : Except DartError α × World σ δ := p.run.run w

/-- `stdin.readLineSync()`, with `none` for `null`. -/
def readLineSync : Program σ δ (Option String) := do
  let w ← get
  match w.stdin with
  | [] => return none -- the input has ended, and stays ended
  | line :: rest =>
    set { w with stdin := rest }
    return some line

/-- `stdin.readLineSync()!`. -/
def readLine : Program σ δ String := do
  match ← readLineSync with
  | some line => return line
  | none => throw .nullCheck

/-- `int.parse(source)`. -/
def parseInt (source : String) : Program σ δ Int64 :=
  match int.tryParse source with
  | some i => return i
  | none => throw (.formatException source)

/-- `int.parse(stdin.readLineSync()!)`. -/
def readInt : Program σ δ Int64 := do
  parseInt (← readLine)

/-- Append one item to the output. -/
def output (o : Output) : Program σ δ Unit := modify fun w => { w with stdout := w.stdout ++ [o] }

/-- `stdout.write(text)`. -/
def write (text : String) : Program σ δ Unit := output (.write text)

/-- `print(line)`. -/
def print (line : String) : Program σ δ Unit := output (.print line)

/-- The next value of the random source. -/
def draw : Program σ δ δ := do
  let w ← get
  set { w with draws := w.draws.tail }
  return w.draws.head

/-- Read the top-level variables. -/
def getStore : Program σ δ σ := World.store <$> get

/-- Assign to the top-level variables. -/
def setStore (f : σ → σ) : Program σ δ Unit := modify fun w => { w with store := f w.store }

/-! ## Symbolic execution -/

variable (w : World σ δ)

@[simp]
theorem exec_pure (a : α) : exec (pure a : Program σ δ α) w = (.ok a, w) := rfl

@[simp]
theorem exec_bind (p : Program σ δ α) (f : α → Program σ δ β) :
    exec (p >>= f) w =
      match exec p w with
      | (.ok a, w') => exec (f a) w'
      | (.error e, w') => (.error e, w') := by
  -- the exception layer is outside: the world of a failed `p` is kept
  simp only [exec, ExceptT.run_bind, StateT.run_bind]
  rcases StateT.run p.run w with ⟨r, w'⟩
  cases r <;> rfl

theorem exec_readLine :
    exec (readLine : Program σ δ String) w =
      match w.stdin with
      | [] => (.error .nullCheck, w)
      | line :: rest => (.ok line, { w with stdin := rest }) := by
  obtain ⟨store, stdin, draws, stdout⟩ := w
  cases stdin <;> rfl

theorem exec_parseInt (source : String) :
    exec (parseInt source : Program σ δ Int64) w =
      match int.tryParse source with
      | some i => (.ok i, w)
      | none => (.error (.formatException source), w) := by
  unfold parseInt
  cases int.tryParse source <;> rfl

@[simp]
theorem exec_write (text : String) :
    exec (write text : Program σ δ Unit) w =
      (.ok (), { w with stdout := w.stdout ++ [.write text] }) := rfl

@[simp]
theorem exec_print (line : String) :
    exec (print line : Program σ δ Unit) w =
      (.ok (), { w with stdout := w.stdout ++ [.print line] }) := rfl

@[simp]
theorem exec_draw :
    exec (draw : Program σ δ δ) w = (.ok w.draws.head, { w with draws := w.draws.tail }) := rfl

@[simp]
theorem exec_getStore : exec (getStore : Program σ δ σ) w = (.ok w.store, w) := rfl

@[simp]
theorem exec_setStore (f : σ → σ) :
    exec (setStore f : Program σ δ Unit) w = (.ok (), { w with store := f w.store }) := rfl

/-- A loop that only prints appends one line per element. -/
@[simp]
theorem exec_forM_print {ι : Type} (xs : List ι) (f : ι → String) :
    exec (forM xs fun x => (print (f x) : Program σ δ Unit)) w =
      (.ok (), { w with stdout := w.stdout ++ xs.map fun x => .print (f x) }) := by
  induction xs generalizing w with
  | nil => simp
  | cons x xs ih => simp [ih]

/-! ### Reading -/

variable {w} {source line : String} {rest : List String}

theorem exec_readLine_of_cons (h : w.stdin = line :: rest) :
    exec (readLine : Program σ δ String) w = (.ok line, { w with stdin := rest }) := by
  rw [exec_readLine, h]

/-- After the end of the input `!` throws, and the world is as before. -/
theorem exec_readLine_bind_of_nil (h : w.stdin = []) (f : String → Program σ δ α) :
    exec (readLine >>= f) w = (.error .nullCheck, w) := by
  rw [exec_bind, exec_readLine, h]

theorem exec_parseInt_of_some {i : Int64} (h : int.tryParse source = some i) :
    exec (parseInt source : Program σ δ Int64) w = (.ok i, w) := by
  rw [exec_parseInt, h]

theorem exec_parseInt_bind_of_none (h : int.tryParse source = none)
    (f : Int64 → Program σ δ α) :
    exec (parseInt source >>= f) w = (.error (.formatException source), w) := by
  rw [exec_bind, exec_parseInt, h]

/-- Returning a value after `p` does not change the world that `p` leaves. -/
theorem exec_bind_pure_snd (p : Program σ δ α) (b : β) :
    (exec (p >>= fun _ => pure b) w).2 = (exec p w).2 := by
  rw [exec_bind]
  rcases exec p w with ⟨_ | _, _⟩ <;> rfl

end Program

end Dart

import EventManager.Dart.Console
import Mathlib.Data.Stream.Init

/-!
# Dialogues

A console program that asks before it reads: every `readLineSync()!` follows a prompt that was
written for it, and what is read is a line or an integer. `Dialogue` is the shape of such programs,
one constructor for each thing they do, and it is closed under `bind`. What holds of all of them is
proved once, by induction on the shape.

`Consumes f w read drawn out` says that `f`, run in `w`, reads the lines `read`, uses the draws
`drawn` and appends `out` to the output, and that it would do the same in every world that offers
the same lines and draws first, whatever follows them. Only a program that has asked for a line and
found the input ended has noticed that nothing follows: it does the same where nothing follows.

## Main results

* `Dialogue.bind`: dialogues compose;
* `Dialogue.consumes`: the outcome of a dialogue depends on what it has read and drawn only;
* `Dialogue.prompted`: a dialogue writes one prompt for each line it reads, and it fails only
  because the input has ended or because the last line it has read is no integer.
-/

namespace Dart

namespace Program

variable {σ δ α β : Type}

/-! ## The shape -/

/-- A program that writes a prompt before each line it reads. -/
inductive Dialogue : Program σ δ α → Prop
  | done (a : α) : Dialogue (pure a)
  | tell (line : String) {p : Program σ δ α} (hp : Dialogue p) :
      Dialogue (print line >>= fun _ => p)
  | ask (text : String) {f : String → Program σ δ α} (hf : ∀ line, Dialogue (f line)) :
      Dialogue (write text >>= fun _ => readLine >>= f)
  | askInt (text : String) {f : Int64 → Program σ δ α} (hf : ∀ i, Dialogue (f i)) :
      Dialogue (write text >>= fun _ => readInt >>= f)
  | look {f : σ → Program σ δ α} (hf : ∀ s, Dialogue (f s)) : Dialogue (getStore >>= f)
  | assign (g : σ → σ) {p : Program σ δ α} (hp : Dialogue p) : Dialogue (setStore g >>= fun _ => p)
  | draw {f : δ → Program σ δ α} (hf : ∀ d, Dialogue (f d)) : Dialogue (draw >>= f)

namespace Dialogue

variable {p : Program σ δ α} {f : α → Program σ δ β}

/-- Dialogues compose. -/
theorem bind (hp : Dialogue p) (hf : ∀ a, Dialogue (f a)) : Dialogue (p >>= f) := by
  induction hp with
  | done a =>
    rw [pure_bind]
    exact hf a
  | tell line _ ih =>
    rw [bind_assoc]
    exact .tell line ih
  | ask text _ ih =>
    simp only [bind_assoc]
    exact .ask text ih
  | askInt text _ ih =>
    simp only [bind_assoc]
    exact .askInt text ih
  | look _ ih =>
    rw [bind_assoc]
    exact .look ih
  | assign g _ ih =>
    rw [bind_assoc]
    exact .assign g ih
  | draw _ ih =>
    rw [bind_assoc]
    exact .draw ih

/-- A program that only prints. -/
theorem print (line : String) : Dialogue (print line : Program σ δ Unit) := by
  have h : Dialogue (Program.print line >>= fun _ => pure () : Program σ δ Unit) :=
    .tell line (.done ())
  rwa [bind_pure_unit] at h

/-- A loop that only prints. -/
theorem forM_print {ι : Type} (xs : List ι) (line : ι → String) :
    Dialogue (forM xs fun x => (Program.print (line x) : Program σ δ PUnit)) := by
  induction xs with
  | nil => exact .done ()
  | cons x xs ih => exact .tell (line x) ih

end Dialogue

/-! ## What a run consumes -/

/-- Run in `w`, `f` reads the lines `read`, uses the draws `drawn` and writes `out`. In every world
with the same variables that starts with the same lines and draws it does the same, unless it was
stopped by the end of the input and further lines follow. -/
structure Consumes (f : World σ δ → Except DartError α × World σ δ) (w : World σ δ)
    (read : List String) (drawn : List δ) (out : List Output) : Prop where
  stdin : w.stdin = read ++ (f w).2.stdin
  draws : w.draws = drawn ++ₛ (f w).2.draws
  stdout : (f w).2.stdout = w.stdout ++ out
  same : ∀ rest draws stdout, (f w).1 ≠ .error .nullCheck ∨ rest = [] →
    f ⟨w.store, read ++ rest, drawn ++ₛ draws, stdout⟩ =
      ((f w).1, ⟨(f w).2.store, rest, draws, stdout ++ out⟩)

namespace Consumes

variable {w : World σ δ} {read : List String} {drawn : List δ} {out : List Output}

/-- A program that leaves the world as it is consumes nothing. -/
theorem const {f : World σ δ → Except DartError α × World σ δ} {outcome : Except DartError α}
    (h : ∀ v, f v = (outcome, v)) : Consumes f w [] [] [] := by
  refine ⟨by simp [h], by simp [h], by simp [h], ?_⟩
  intro rest draws stdout _
  simp [h]

/-- Writing `o` and assigning `s` first. -/
theorem of_eq {f g : World σ δ → Except DartError α × World σ δ} {s : σ} {o : List Output}
    (hf : ∀ stdin draws stdout,
      f ⟨w.store, stdin, draws, stdout⟩ = g ⟨s, stdin, draws, stdout ++ o⟩)
    (hg : Consumes g ⟨s, w.stdin, w.draws, w.stdout ++ o⟩ read drawn out) :
    Consumes f w read drawn (o ++ out) := by
  obtain ⟨hstdin, hdraws, hstdout, hsame⟩ := hg
  have hw : f w = g ⟨s, w.stdin, w.draws, w.stdout ++ o⟩ := hf w.stdin w.draws w.stdout
  rw [← hw] at hstdin hdraws hstdout
  refine ⟨hstdin, hdraws, by rw [hstdout, List.append_assoc], ?_⟩
  intro rest draws stdout hrest
  rw [hw] at hrest ⊢
  rw [hf, hsame rest draws (stdout ++ o) hrest, List.append_assoc]

/-- Looking at the variables, or assigning `s`, first. -/
theorem of_eq_of_store {f g : World σ δ → Except DartError α × World σ δ} {s : σ}
    (hf : ∀ stdin draws stdout, f ⟨w.store, stdin, draws, stdout⟩ = g ⟨s, stdin, draws, stdout⟩)
    (hg : Consumes g ⟨s, w.stdin, w.draws, w.stdout⟩ read drawn out) :
    Consumes f w read drawn out := by
  rw [← List.append_nil w.stdout] at hg
  exact of_eq (fun stdin draws stdout => by rw [hf, List.append_nil]) hg

theorem readLine_nil {f : String → Program σ δ α} (h : w.stdin = []) :
    Consumes (exec (readLine >>= f)) w [] [] [] := by
  have hw := exec_readLine_bind_of_nil h f
  refine ⟨by simp [hw], by simp [hw], by simp [hw], ?_⟩
  intro rest draws stdout hrest
  -- the end of the input was noticed, so nothing may follow
  have hnil : rest = [] := hrest.resolve_left (by simp [hw])
  rw [hw, hnil, exec_readLine_bind_of_nil rfl f]
  simp

theorem readLine_cons {f : String → Program σ δ α} {line : String} {lines : List String}
    (h : w.stdin = line :: lines)
    (hf : Consumes (exec (f line)) { w with stdin := lines } read drawn out) :
    Consumes (exec (readLine >>= f)) w (line :: read) drawn out := by
  have hexec {v : World σ δ} {lines' : List String} (hv : v.stdin = line :: lines') :
      exec (readLine >>= f) v = exec (f line) { v with stdin := lines' } := by
    rw [exec_bind, exec_readLine_of_cons hv]
  obtain ⟨hstdin, hdraws, hstdout, hsame⟩ := hf
  have hw := hexec h
  refine ⟨?_, by rw [hw]; exact hdraws, by rw [hw]; exact hstdout, ?_⟩
  · rw [hw, h, List.cons_append, ← hstdin]
  · intro rest draws stdout hrest
    rw [hw] at hrest ⊢
    rw [hexec (List.cons_append ..), hsame rest draws stdout hrest]

theorem draw_bind {f : δ → Program σ δ α}
    (hf : Consumes (exec (f w.draws.head)) { w with draws := w.draws.tail } read drawn out) :
    Consumes (exec (draw >>= f)) w read (w.draws.head :: drawn) out := by
  have hexec (v : World σ δ) :
      exec (draw >>= f) v = exec (f v.draws.head) { v with draws := v.draws.tail } := by
    rw [exec_bind, exec_draw]
  obtain ⟨hstdin, hdraws, hstdout, hsame⟩ := hf
  refine ⟨by rw [hexec]; exact hstdin, ?_, by rw [hexec]; exact hstdout, ?_⟩
  · rw [hexec, Stream'.cons_append_stream, ← hdraws, Stream'.eta]
  · intro rest draws stdout hrest
    rw [hexec w] at hrest ⊢
    rw [hexec]
    exact hsame rest draws stdout hrest

/-- A line that was read is parsed, or the program throws. -/
theorem parseInt_bind {source : String} {f : Int64 → Program σ δ α}
    (hf : ∀ i, ∃ read drawn out, Consumes (exec (f i)) w read drawn out) :
    ∃ read drawn out, Consumes (exec (parseInt source >>= f)) w read drawn out := by
  cases hsource : int.tryParse source with
  | none => exact ⟨[], [], [], const fun v => exec_parseInt_bind_of_none hsource f⟩
  | some i =>
    obtain ⟨read, drawn, out, hi⟩ := hf i
    refine ⟨read, drawn, out, of_eq_of_store (fun stdin draws stdout => ?_) hi⟩
    rw [exec_bind, exec_parseInt_of_some hsource]

/-- A prompt, then a line. -/
theorem write_readLine_bind {text : String} {f : String → Program σ δ α}
    (hf : ∀ line (v : World σ δ), ∃ read drawn out, Consumes (exec (f line)) v read drawn out) :
    ∃ read drawn out,
      Consumes (exec (write text >>= fun _ => readLine >>= f)) w read drawn out := by
  have hread : ∃ read drawn out, Consumes (exec (readLine >>= f))
      { w with stdout := w.stdout ++ [.write text] } read drawn out := by
    cases hstdin : w.stdin with
    | nil => exact ⟨[], [], [], readLine_nil rfl⟩
    | cons line lines =>
      obtain ⟨read, drawn, out, hline⟩ := hf line
        ⟨w.store, lines, w.draws, w.stdout ++ [.write text]⟩
      exact ⟨line :: read, drawn, out, readLine_cons rfl hline⟩
  obtain ⟨read, drawn, out, hread⟩ := hread
  exact ⟨read, drawn, _, of_eq (fun _ _ _ => by rw [exec_bind, exec_write]) hread⟩

end Consumes

/-- A dialogue depends on what it consumes only. -/
theorem Dialogue.consumes {p : Program σ δ α} (hp : Dialogue p) (w : World σ δ) :
    ∃ read drawn out, Consumes (exec p) w read drawn out := by
  induction hp generalizing w with
  | done a => exact ⟨[], [], [], .const fun v => exec_pure v a⟩
  | tell line _ ih =>
    obtain ⟨read, drawn, out, h⟩ := ih ⟨w.store, w.stdin, w.draws, w.stdout ++ [.print line]⟩
    exact ⟨read, drawn, _, .of_eq (fun _ _ _ => by rw [exec_bind, exec_print]) h⟩
  | ask text _ ih => exact Consumes.write_readLine_bind ih
  | askInt text _ ih =>
    simp only [readInt, bind_assoc]
    exact Consumes.write_readLine_bind fun line v => Consumes.parseInt_bind fun i => ih i v
  | look _ ih =>
    obtain ⟨read, drawn, out, h⟩ := ih w.store w
    exact ⟨read, drawn, out, .of_eq_of_store (fun _ _ _ => by rw [exec_bind, exec_getStore]) h⟩
  | assign g _ ih =>
    obtain ⟨read, drawn, out, h⟩ := ih ⟨g w.store, w.stdin, w.draws, w.stdout⟩
    exact ⟨read, drawn, out, .of_eq_of_store (fun _ _ _ => by rw [exec_bind, exec_setStore]) h⟩
  | draw _ ih =>
    obtain ⟨read, drawn, out, h⟩ := ih w.draws.head { w with draws := w.draws.tail }
    exact ⟨read, _, out, .draw_bind h⟩

/-! ## Prompts and failures -/

/-- Whether the output is a prompt. -/
def Output.isPrompt : Output → Bool
  | .write _ => true
  | .print _ => false

/-- The number of prompts. -/
def prompts (out : List Output) : ℕ := out.countP Output.isPrompt

@[simp]
theorem prompts_concat_write (out : List Output) (text : String) :
    prompts (out ++ [.write text]) = prompts out + 1 := by
  simp [prompts, Output.isPrompt]

@[simp]
theorem prompts_concat_print (out : List Output) (line : String) :
    prompts (out ++ [.print line]) = prompts out := by
  simp [prompts, Output.isPrompt]

/-- Whether the program was stopped by the end of the input, as a number. -/
def ended : Except DartError α → ℕ
  | .error .nullCheck => 1
  | _ => 0

/-- Run in `w`, `f` writes a prompt for each line it reads, and one more if there is no line to
read. It fails only in this case, and if the last line it has read is no integer. -/
structure Prompted (f : World σ δ → Except DartError α × World σ δ) (w : World σ δ) : Prop where
  prompts : prompts (f w).2.stdout + (f w).2.stdin.length =
    prompts w.stdout + w.stdin.length + ended (f w).1
  failed : ∀ e, (f w).1 = .error e → e = .nullCheck ∧ (f w).2.stdin = [] ∨
    ∃ read line, w.stdin = read ++ line :: (f w).2.stdin ∧ int.tryParse line = none ∧
      e = .formatException line

/-- A run that goes on as another one, after as many prompts as lines. -/
theorem Prompted.of_eq {f g : World σ δ → Except DartError α × World σ δ} {w w' : World σ δ}
    (hg : Prompted g w') (hf : f w = g w')
    (hprompts : Program.prompts w'.stdout + w'.stdin.length =
      Program.prompts w.stdout + w.stdin.length) (hsuffix : w'.stdin <:+ w.stdin) :
    Prompted f w := by
  refine ⟨by rw [hf, hg.prompts, hprompts], fun e he => ?_⟩
  rw [hf] at he ⊢
  rcases hg.failed e he with h | ⟨read, line, hw', hline, he⟩
  · exact Or.inl h
  · obtain ⟨first, hfirst⟩ := hsuffix
    refine Or.inr ⟨first ++ read, line, ?_, hline, he⟩
    rw [← hfirst, hw', List.append_assoc]

/-- A prompt, then a line: the end of the input stops the program, and otherwise it goes on with the
line. -/
theorem Prompted.write_readLine_bind {text : String} {f : String → Program σ δ α} {w : World σ δ}
    (hf : ∀ line lines, w.stdin = line :: lines →
      Prompted (fun _ => exec (f line) ⟨w.store, lines, w.draws, w.stdout ++ [.write text]⟩) w) :
    Prompted (exec (write text >>= fun _ => readLine >>= f)) w := by
  have hexec : exec (write text >>= fun _ => readLine >>= f) w =
      exec (readLine >>= f) { w with stdout := w.stdout ++ [.write text] } := by
    rw [exec_bind, exec_write]
  cases hstdin : w.stdin with
  | nil =>
    rw [exec_readLine_bind_of_nil (by exact hstdin)] at hexec
    refine ⟨by simp [hexec, hstdin, ended], fun e he => ?_⟩
    rw [hexec] at he ⊢
    exact Or.inl ⟨(Except.error.inj he).symm, hstdin⟩
  | cons line lines =>
    rw [exec_bind _ readLine, exec_readLine_of_cons (by exact hstdin)] at hexec
    obtain ⟨hprompts, hfailed⟩ := hf line lines hstdin
    exact ⟨by rw [hexec]; exact hprompts, by rw [hexec]; exact hfailed⟩

/-- A dialogue writes a prompt for each line it reads. -/
theorem Dialogue.prompted {p : Program σ δ α} (hp : Dialogue p) (w : World σ δ) :
    Prompted (exec p) w := by
  induction hp generalizing w with
  | done a => exact ⟨rfl, fun e he => by simp at he⟩
  | tell line _ ih =>
    exact (ih { w with stdout := w.stdout ++ [.print line] }).of_eq (by simp) (by simp)
      List.suffix_rfl
  | ask text _ ih =>
    refine .write_readLine_bind fun line lines hstdin => (ih line _).of_eq rfl ?_ ?_
    · simp only [prompts_concat_write, hstdin, List.length_cons]
      omega
    · rw [hstdin]
      exact List.suffix_cons line lines
  | @askInt text f _ ih =>
    simp only [readInt, bind_assoc]
    refine .write_readLine_bind fun line lines hstdin => ?_
    have hprompts : Program.prompts (w.stdout ++ [.write text]) + lines.length =
        Program.prompts w.stdout + w.stdin.length := by
      simp only [prompts_concat_write, hstdin, List.length_cons]
      omega
    cases hline : int.tryParse line with
    | none =>
      -- the line just read is the last one
      have hexec (v : World σ δ) := exec_parseInt_bind_of_none (w := v) hline f
      refine ⟨by rw [hexec]; exact hprompts, fun e he => Or.inr ⟨[], line, ?_, hline, ?_⟩⟩
      · rw [hexec]
        exact hstdin
      · rw [hexec] at he
        exact (Except.error.inj he).symm
    | some i =>
      refine (ih i ⟨w.store, lines, w.draws, w.stdout ++ [.write text]⟩).of_eq ?_ hprompts ?_
      · rw [exec_bind, exec_parseInt_of_some hline]
      · rw [hstdin]
        exact List.suffix_cons line lines
  | look _ ih =>
    exact (ih w.store w).of_eq (by simp) rfl List.suffix_rfl
  | assign g _ ih =>
    exact (ih { w with store := g w.store }).of_eq (by simp) rfl List.suffix_rfl
  | draw _ ih =>
    exact (ih w.draws.head { w with draws := w.draws.tail }).of_eq (by simp) rfl List.suffix_rfl

end Program

end Dart

import Fallible.Proofs.History.Tracing

/-!
# The steps that are taken

A run takes the steps of its history: judging and capturing do, and reading a document does, which
judges the causes of its failures. So operations and whole programs do.

## Main results

* `Schema.traced_ofJson`: reading a document
* `Run.Traced.tracing`: what operations do takes the steps of its history
* `Program.traced_run`: the run
-/

namespace Fallible

open History (silent judging)

/-! ## Judging and capturing -/

section Judging

variable {σ α β : Type}

namespace Run.Traced

theorem active : Traced (Classifier.active : Run σ Classifier) fun _ => [.asked] :=
  Takes.active

theorem judge (c : Cause) : Traced (c.judge : Run σ Bool) (judging c) :=
  Takes.judge c

theorem install (k : Classifier) :
    Traced (k.install : Run σ (Except Classifier.InstallError Unit)) (.installing k) := by
  intro s
  -- whatever the session, installing answers
  have hi := Classifier.install_apply k s
  rw [History.installing]
  cases hs : s.classifier <;> rw [hs] at hi <;> rw [hi] <;> exact .install hi

theorem ofCause (c : Cause) :
    Traced (Captured.ofCause c : Run σ (Except Captured.Refusal Captured)) (judging c) := by
  refine (judge c).bind_silent fun fatal => ?_
  split
  · exact pure _
  · exact pure _

theorem rethrow (c : Cause) : Traced (c.rethrow : Run σ α) silent :=
  (emit _).bind_silent fun _ => throw c

theorem capture (c : Cause) : Traced (Captured.capture c : Run σ Captured) (judging c) := by
  refine (ofCause c).bind_silent fun r => ?_
  cases r with
  | ok captured => exact (emit _).bind_silent fun _ => pure captured
  | error refusal => exact rethrow _

/-- Raising conditions is no step. -/
theorem mapM {f : α → Run σ β} (hf : ∀ a, Traced (f a) silent) (as : List α) :
    Traced (as.mapM f) silent := by
  induction as with
  | nil => exact pure []
  | cons a as ih =>
    rw [List.mapM_cons]
    exact (hf a).bind_silent fun b => ih.bind_silent fun bs => pure (b :: bs)

theorem record (r : Record) : Traced (r.raise : Run σ Cause) silent := by
  have condition (kind : Kind) (message : Option String) :
      Traced (Record.raise.condition kind message : Run σ Condition) silent :=
    bind_silent Takes.fresh fun _ => pure _
  exact (condition _ _).bind_silent fun _ =>
    (mapM (fun _ => condition _ _) _).bind_silent fun _ => pure _

end Run.Traced

end Judging

/-! ## Documents -/

section Documents

open Run (Traced)

variable {σ : Type}

theorem Decode.traced_failure (room : Nat) (j : Json) :
    Traced (Decode.failure room j : Run σ (Except DecodeError Value))
      (Decode.failureHistory room j) := by
  rw [Decode.failure, Decode.failureHistory]
  cases Record.ofJson room j with
  | error e => exact .pure _
  | ok record =>
    refine (Traced.record record).after fun c => (Traced.ofCause c).bind_silent fun r => ?_
    cases r with
    | ok d => exact .pure _
    | error refusal => exact .pure _

theorem Decode.traced_items {read : Json → Run σ (Except DecodeError Value)}
    {h : Json → History σ} (hr : ∀ j, Traced (read j) (h j)) (js : List Json) :
    Traced (Decode.items read js) (Decode.itemsHistory read h js) := by
  induction js with
  | nil => exact .pure _
  | cons j js ih =>
    refine (hr j).bind fun r => ?_
    cases r with
    | error e => exact .pure _
    | ok v => exact ih.bind_silent fun _ => .pure _

/-- **Reading a document** judges the causes of the failures that are come to. -/
theorem Schema.traced_ofJson (schema : Schema) (room : Nat) (j : Json) :
    Traced (schema.ofJson room j : Run σ (Except DecodeError Value)) (schema.history room j) := by
  induction schema generalizing room j with
  | unit | text | kind => exact .pure _
  | bool => cases j <;> exact .pure _
  | integer w => cases j <;> exact .pure _
  | cause =>
    rw [Schema.ofJson]
    cases Record.ofJson room j with
    | error e => exact .pure _
    | ok record => exact (Traced.record record).bind_silent fun c => .pure _
  | option schema ih =>
    cases j with
    | null => exact .pure _
    | _ => exact (ih room _).bind_silent fun _ => .pure _
  | list schema ih =>
    cases j with
    | array js =>
      cases room with
      | zero => exact .pure _
      | succ room => exact (Decode.traced_items (ih room) js).bind_silent fun _ => .pure _
    | _ => exact .pure _
  | attempt schema ih =>
    rw [Schema.ofJson, Schema.history]
    rcases Variant.ofJson room ["Success", "Failure"] j with e | ⟨name⟩ | ⟨name, value, room, alone⟩
    · exact .pure _
    · exact .pure _
    · simp only
      split
      · exact (ih room value).bind_silent fun _ => .pure _
      · exact (Decode.traced_failure room value).bind_silent fun _ => .pure _
  | maybe schema ih =>
    rw [Schema.ofJson, Schema.history]
    rcases Variant.ofJson room ["Some", "None"] j with e | ⟨name⟩ | ⟨name, value, room, alone⟩
    · exact .pure _
    · exact .pure _
    · simp only
      split
      · exact (ih room value).bind_silent fun _ => .pure _
      · exact .pure _

theorem Schema.traced_decodeBytes (schema : Schema) (bytes : ByteArray) :
    Traced (schema.decodeBytes bytes : Run σ (Except DecodeError Value))
      (schema.history Schema.room (Json.read (Json.Symbol.ofBytes bytes)).tree) := by
  refine (schema.traced_ofJson _ _).bind_silent fun r => ?_
  cases r with
  | error e => exact .pure _
  | ok v => exact .pure _

end Documents

/-! ## Programs -/

/-- Being taken is closed under all that operations do. -/
theorem Run.Traced.tracing : Run.Tracing (@Run.Traced Live) where
  pure := .pure
  throw := .throw
  panic := .panic
  fresh := .fresh
  emit := .emit
  hold _ := .call _
  held := .call _
  install := .install
  capture := .capture
  active := active.bind_silent fun _ => .call _
  judge c := (judge c).bind_silent fun _ => .call _
  ofCause c := (ofCause c).bind_silent fun _ => .call _
  bind := .bind
  ending := .ending

theorem Run.Traced.reads (op : Operation) : op.Reads (@Run.Traced Live) := by
  cases op with
  | decode schema bytes => exact (schema.traced_decodeBytes bytes).bind_silent fun _ => .call _
  | _ => trivial

/-- **The run**: a program takes the steps of its history. -/
theorem Program.traced_run (p : Program) : p.run.Traced p.history :=
  p.tracing_run Run.Traced.tracing (p.calls_of_forall Run.Traced.reads)

end Fallible

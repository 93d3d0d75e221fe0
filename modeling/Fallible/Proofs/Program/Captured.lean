import Fallible.Proofs.Program.Operations

/-!
# Captured causes stay non-fatal

Whatever operations a program calls, in whatever order and with whatever functions, every captured
cause in an answer that it holds is non-fatal by the classifier in effect, and this classifier
stays. By the same induction every condition in such an answer has been raised, unless the program
made it up.

## Main results

* `Operation.safe_perform`: the step, one operation with secure functions
* `Program.secure_run`: the run, by induction on the program
* `Program.captured_nonFatal`: captured causes over whole runs of a fresh process
-/

namespace Fallible

open Body (safe_receive preserves_checked preserves_plain trusts_unit trusts_cause)
open Carrier (carries)

variable {K : Condition → Prop} {s : Session Live} {f g : Body}

/-! ## Calls -/

theorem Attempt.carries_of_ofOption? {t : Attempt Value} {u : Attempt (Option Value)} {m : Mark}
    (h : ofOption? t = some u) (hm : carries u m) : carries t m := by
  cases t with
  | success v =>
    obtain ⟨o, ho, rfl⟩ := Option.map_eq_some_iff.mp h
    exact Value.carries_of_toOption? ho hm
  | failure c =>
    cases h
    exact hm

/-- Every call on a trusted attempt is safe. -/
theorem Attempt.Call.safe_perform {t : Attempt Value} (call : Attempt.Call) (hs : s.Sound K)
    (ht : s.Trusts K t) (hr : ∀ r ∈ call.recipes, r.Draws K) (hf : f.Secure K) (hg : g.Secure K) :
    Safe K (call.perform t f g) s := by
  -- functions of the value, and functions of the cause
  have onCause {α : Type} [Carrier α] (view : View α) :
      Preserves K fun c : Cause => Body.checked view f (.cause c) :=
    fun s _ hs hc => preserves_checked hf s _ hs (trusts_cause hc)
  have plainly {α : Type} [Carrier α] (view : View α) :
      Preserves K fun c : Cause => Body.plain view f (.cause c) :=
    fun s _ hs hc => preserves_plain hf s _ hs (trusts_cause hc)
  have attempt : ∀ t m, carries (Answer.ofAttempt t) m → carries t m :=
    fun _ _ => Value.carries_ofAttempt
  cases call with
  | isSuccess => exact Safe.pure hs fun _ hm => absurd hm (Value.not_carries rfl)
  | isFailure => exact Safe.pure hs fun _ hm => absurd hm (Value.not_carries rfl)
  | get => exact (safe_get hs ht).map fun _ _ => Answer.carries_ofResult fun _ hm => hm
  | toExcept =>
    refine Safe.pure hs (ht.of_carries fun _ hm => ?_)
    exact Attempt.carries_toExcept (Answer.carries_ofResult (fun _ hm => hm) hm)
  | getCause =>
    exact (safe_getCause hs ht).map fun _ _ =>
      Answer.carries_ofResult fun _ => Value.carries_cause_iff.mp
  | handle =>
    exact Safe.pure hs (ht.of_carries fun _ hm => Attempt.carries_handle (attempt _ _ hm))
  | toOption =>
    exact Safe.pure hs (ht.of_carries fun _ hm =>
      Attempt.carries_toOption (Value.carries_ofOption hm))
  | toMaybe =>
    exact Safe.pure hs (ht.of_carries fun _ hm =>
      Attempt.carries_toMaybe (Value.carries_ofMaybe hm))
  | toList =>
    exact Safe.pure hs (ht.of_carries fun _ hm =>
      Attempt.carries_toList (Value.carries_list_iff.mp hm))
  | join =>
    simp only [Attempt.Call.perform]
    -- only an attempt of an option can be joined
    split
    · rename_i u hu
      exact Safe.pure hs (ht.of_carries fun _ hm =>
        Attempt.carries_of_ofOption? hu (Attempt.carries_join (Value.carries_ofOption hm)))
    · exact Safe.panic hs _
  | getOrElse other =>
    -- the receiver is still trusted after the other value was made
    refine (safe_receive hs (hr other List.mem_cons_self)).bind fun v s' hk hs hv => Safe.pure hs ?_
    cases t with
    | success a => exact ht.mono hk
    | failure d => exact hv
  | getOrElseGet =>
    exact (safe_getOrElseGet hs ht (preserves_plain hf s _ hs trusts_unit)).map fun _ _ hm => hm
  | getOrElseThrow => exact safe_getOrElseThrow hs ht (plainly .self)
  | toSum => exact (safe_toSum hs ht (plainly .self)).map fun _ _ => Answer.carries_ofSum
  | fold => exact (safe_fold hs ht (plainly .self) (preserves_plain hg)).map fun _ _ hm => hm
  | map => exact (safe_map hs ht (preserves_checked hf)).map attempt
  | flatMap => exact (safe_flatMap hs ht (preserves_checked hf)).map attempt
  | filter => exact (safe_filter hs ht (preserves_checked hf)).map attempt
  | filterOr => exact (safe_filterOr hs ht (preserves_checked hf) (preserves_plain hg)).map attempt
  | mapFailure => exact (safe_mapFailure hs ht (onCause .cause)).map attempt
  | recover kind => exact (safe_recover hs ht kind (onCause .self)).map attempt
  | recoverWith kind => exact (safe_recoverWith hs ht kind (onCause .attempt)).map attempt
  | orElse => exact (safe_orElse hs ht (preserves_checked hf s _ hs trusts_unit)).map attempt
  | transform => exact (safe_transform hs ht (onCause .attempt) (preserves_checked hg)).map attempt
  | failed => exact (safe_failed hs ht).map fun _ _ => Answer.carries_ofSwapped
  | forEach =>
    exact (safe_forEach hs ht (preserves_checked hf)).map fun _ _ =>
      Answer.carries_ofResult_blank fun _ => rfl
  | onSuccess =>
    exact (safe_onSuccess hs ht (preserves_checked hf)).map fun _ _ =>
      Answer.carries_ofResult fun _ => Value.carries_ofAttempt
  | onFailure =>
    exact (safe_onFailure hs ht (onCause .ignored)).map fun _ _ =>
      Answer.carries_ofResult fun _ => Value.carries_ofAttempt

/-- Every call on a trusted maybe is safe. -/
theorem Maybe.Call.safe_perform {m : Maybe Value} (call : Maybe.Call) (hs : s.Sound K)
    (ht : s.Trusts K m) (hr : ∀ r ∈ call.recipes, r.Draws K) (hf : f.Secure K) (hg : g.Secure K) :
    Safe K (call.perform m f g) s := by
  -- suppliers are functions of no value
  have supplied {α : Type} [Carrier α] (view : View α) : Safe K (Body.plain view f .unit) s :=
    preserves_plain hf s _ hs trusts_unit
  have maybe : ∀ o m, carries (Answer.ofMaybe o) m → carries o m :=
    fun _ _ => Value.carries_ofMaybe
  cases call with
  | isPresent => exact Safe.pure hs fun _ hm => absurd hm (Value.not_carries rfl)
  | isAbsent => exact Safe.pure hs fun _ hm => absurd hm (Value.not_carries rfl)
  | get => exact (safe_get hs ht).map fun _ _ => Answer.carries_ofResult fun _ hm => hm
  | handle =>
    exact Safe.pure hs (ht.of_carries fun _ hm => Maybe.carries_handle (maybe _ _ hm))
  | toOption =>
    exact Safe.pure hs (ht.of_carries fun _ hm =>
      Maybe.carries_toOption (Value.carries_ofOption hm))
  | toList =>
    exact Safe.pure hs (ht.of_carries fun _ hm =>
      Maybe.carries_toList (Value.carries_list_iff.mp hm))
  | getOrElse other =>
    refine (safe_receive hs (hr other List.mem_cons_self)).bind fun v s' hk hs hv => Safe.pure hs ?_
    cases m with
    | present a => exact ht.mono hk
    | absent => exact hv
  | getOrElseGet => exact (safe_getOrElseGet hs ht (supplied .self)).map fun _ _ hm => hm
  | getOrElseThrow => exact safe_getOrElseThrow hs ht (supplied .self)
  | toSum => exact (safe_toSum hs ht (supplied .self)).map fun _ _ => Answer.carries_ofSum
  | fold =>
    exact (safe_fold hs ht (supplied .self) (preserves_plain hg)).map fun _ _ hm => hm
  | filter => exact (safe_filter hs ht (preserves_plain hf)).map maybe
  | map => exact (safe_map hs ht (preserves_plain hf)).map maybe
  | flatMap => exact (safe_flatMap hs ht (preserves_plain hf)).map maybe
  | orElse => exact (safe_orElse hs ht (supplied .maybe)).map maybe
  | transform => exact (safe_transform hs ht (supplied .maybe) (preserves_plain hg)).map maybe
  | onAbsent => exact (safe_onAbsent hs ht (supplied .ignored)).map maybe
  | onPresent => exact (safe_onPresent hs ht (preserves_plain hf)).map maybe
  | toAttempt =>
    exact (safe_toAttempt hs ht (supplied .cause)).map fun _ _ => Value.carries_ofAttempt

/-! ## Operations and programs -/

/-- **The step**: in a sound session every operation is safe, whatever secure functions it is given,
if it makes up no condition. -/
theorem Operation.safe_perform (op : Operation) (hs : s.Sound K) (hd : op.Draws K)
    (hf : f.Secure K) (hg : g.Secure K) : Safe K (op.perform f g) s := by
  -- an operation on what a recipe makes of the answers held
  have onValue {β : Type} [Carrier β] {r : Recipe} {k : Value → Run Live β} (hr : r.Draws K)
      (hk : Preserves K k) : Safe K (Body.receive .self r >>= k) s :=
    (safe_receive hs hr).bind fun v s' _ hs hv => hk s' v hs hv
  have supplied {α : Type} [Carrier α] (view : View α) : Safe K (Body.checked view f .unit) s :=
    preserves_checked hf s _ hs trusts_unit
  -- a cause that is held is answered with as a value
  have cause : ∀ (c : Cause) m, carries (.ok (.cause c) : Answer) m → carries c m :=
    fun _ _ => Value.carries_cause_iff.mp
  have drawn {r : Recipe} (hr : r ∈ op.recipes) : r.Draws K := hd.recipes r hr
  have named {c : Cause} (hc : c ∈ op.named) : s.Trusts K c :=
    Session.trusts_of_forall (hd.named c hc)
  cases op with
  | make r => exact (safe_receive hs (drawn List.mem_cons_self)).map fun _ _ hm => hm
  | raise kind message => exact (Safe.raise hs kind message).map cause
  | wrap kind c => exact (Safe.wrap hs kind (named List.mem_cons_self)).map cause
  | adopt kind error => exact (Safe.adopt hs kind error).map cause
  | throw c => exact Safe.throw hs (named List.mem_cons_self)
  | panic text => exact Safe.panic hs text
  | catching =>
    have hm : Safe K (Body.plain .self f .unit) s := preserves_plain hf s _ hs trusts_unit
    exact hm.catching.map fun _ _ => Answer.carries_ofResult fun _ hm => hm
  | shielding => exact Body.safe_shielded (hf s hs)
  | install k =>
    refine (Safe.install hs k).map fun r _ hm => ?_
    cases r <;> exact absurd hm (Value.not_carries rfl)
  | configure h =>
    -- the answer lists names of kinds at most
    refine (Safe.configure hs h).map fun r _ hm => absurd (Answer.carries_iff.mp hm) ?_
    rcases r with _ | _ | p
    · exact Value.not_carries rfl
    · exact Value.not_carries rfl
    · refine Value.not_carries ((Value.causes_some _).trans ((Value.causes_list _).trans ?_))
      rw [List.flatMap_map]
      exact List.flatMap_eq_nil_iff.mpr fun _ _ => rfl
  | active => exact (Safe.active hs).map fun _ _ hm => absurd hm (Value.not_carries rfl)
  | judge c => exact (Safe.judge hs c).map fun _ _ hm => absurd hm (Value.not_carries rfl)
  | ofCause c =>
    -- the cause is held as a failure if it was judged non-fatal, and else as a cause
    refine (Safe.ofCause hs (named List.mem_cons_self)).map fun r _ hm => ?_
    cases r with
    | ok d => exact Value.carries_failure_iff.mp hm
    | error refusal => exact Value.carries_cause_iff.mp hm
  | capture c =>
    exact (Safe.capture hs (named List.mem_cons_self)).map fun _ _ => Value.carries_failure_iff.mp
  | rethrow c =>
    have hc := hd.named c List.mem_cons_self
    exact (Safe.emit hs _).bind fun _ _ _ hs _ => Safe.throw hs (Session.trusts_of_forall hc)
  | fail c =>
    exact (Safe.fail hs (named List.mem_cons_self)).map fun _ _ => Value.carries_ofAttempt
  | of => exact (Safe.of (supplied .self)).map fun _ _ => Value.carries_ofAttempt
  | ofResult isOk r =>
    refine onValue (drawn List.mem_cons_self) fun s v hs hv => ?_
    cases isOk with
    | true =>
      have hr : s.Trusts K (.ok v : Except Cause Value) := hv
      exact (Safe.ofExcept hs hr).map fun _ _ => Value.carries_ofAttempt
    | false =>
      -- the error is turned into a cause, and that is captured
      refine Safe.map ?_ fun _ _ => Value.carries_ofAttempt
      exact (preserves_plain hf s v hs hv).bind fun _ _ _ hs hc => Safe.fail hs hc
  | lift r =>
    exact onValue (drawn List.mem_cons_self) fun s v hs hv =>
      (Safe.of (preserves_checked hf s v hs hv)).map fun _ _ => Value.carries_ofAttempt
  | andThen r =>
    exact onValue (drawn List.mem_cons_self) fun s v hs hv =>
      (Checked.preserves_andThen (preserves_checked hf) (preserves_checked hg) s v hs hv).map
        fun _ _ => Answer.carries_ofResult fun _ hm => hm
  | compose r =>
    exact onValue (drawn List.mem_cons_self) fun s v hs hv =>
      (Checked.preserves_compose (preserves_checked hf) (preserves_checked hg) s v hs hv).map
        fun _ _ => Answer.carries_ofResult fun _ hm => hm
  | negate r =>
    exact onValue (drawn List.mem_cons_self) fun s v hs hv =>
      (Predicate.preserves_negate (preserves_checked hf) s v hs hv).map
        fun _ _ => Answer.carries_ofResult_blank fun _ => rfl
  | and r =>
    exact onValue (drawn List.mem_cons_self) fun s v hs hv =>
      (Predicate.preserves_and (preserves_checked hf) (preserves_checked hg) s v hs hv).map
        fun _ _ => Answer.carries_ofResult_blank fun _ => rfl
  | or r =>
    exact onValue (drawn List.mem_cons_self) fun s v hs hv =>
      (Predicate.preserves_or (preserves_checked hf) (preserves_checked hg) s v hs hv).map
        fun _ _ => Answer.carries_ofResult_blank fun _ => rfl
  | followedBy r =>
    exact onValue (drawn List.mem_cons_self) fun s v hs hv =>
      (Consumer.preserves_followedBy (preserves_checked hf) (preserves_checked hg) s v hs hv).map
        fun _ _ => Answer.carries_ofResult_blank fun _ => rfl
  | onAttempt r call =>
    have hr : ∀ r ∈ call.recipes, r.Draws K := fun _ h => drawn (List.mem_cons_of_mem _ h)
    exact (safe_receive hs (drawn List.mem_cons_self)).bind fun t s' _ hs ht =>
      call.safe_perform hs ht hr hf hg
  | ofOption r =>
    refine (safe_receive hs (drawn List.mem_cons_self)).bind fun o _ _ hs ho =>
      Safe.pure hs (ho.of_carries fun _ hm => ?_)
    cases o with
    | some v => exact hm
    | none => exact absurd hm (Value.not_carries rfl)
  | when condition =>
    have hm : Safe K (Body.plain .self f .unit) s := preserves_plain hf s _ hs trusts_unit
    exact (Maybe.safe_when hs condition hm).map fun _ _ => Value.carries_ofMaybe
  | whenNot condition =>
    have hm : Safe K (Body.plain .self f .unit) s := preserves_plain hf s _ hs trusts_unit
    exact (Maybe.safe_when hs _ hm).map fun _ _ => Value.carries_ofMaybe
  | onMaybe r call =>
    have hr : ∀ r ∈ call.recipes, r.Draws K := fun _ h => drawn (List.mem_cons_of_mem _ h)
    exact (safe_receive hs (drawn List.mem_cons_self)).bind fun o s' _ hs ho =>
      call.safe_perform hs ho hr hf hg
  | encode r =>
    refine onValue (drawn List.mem_cons_self) fun s v hs _ => Safe.pure hs fun _ hm => ?_
    cases h : v.encode <;> rw [h] at hm <;> exact absurd hm (Value.not_carries rfl)
  | decode schema bytes =>
    refine (schema.safe_decodeBytes bytes hs).map fun r _ hm => ?_
    cases r with
    | ok v => exact hm
    | error e => exact absurd hm (Value.not_carries rfl)

/-- **The run**: every program that makes up no condition is secure, by induction on it. The
functions that it passes are programs that the induction covers as well. -/
theorem Program.secure_run (p : Program) (hd : p.Draws K) : p.run.Secure K := by
  induction p generalizing K with
  | answer r => exact fun s hs => (safe_receive hs hd).map fun _ _ hm => hm
  | refuse c => exact fun s hs => Safe.pure hs (Session.trusts_of_forall hd)
  | look next ih =>
    intro s hs
    refine (Body.safe_held hs).bind fun live s' _ hs hl => ?_
    -- the conditions that the program looks at may be named from here on, and they are known
    have hK : ∀ x, K x ∨ live.Holds x → s'.Knows K x := by
      rintro x (hx | ⟨a, ha, hx⟩)
      · exact .inl hx
      · exact hl (.condition x) ⟨a, ha, Answer.carries_iff.mpr hx⟩
    have hs' : s'.Sound fun x => K x ∨ live.Holds x := fun a ha =>
      (hs a ha).of_knows fun x hx => .inl (.inl hx)
    obtain ⟨hk, hsound, htrusts⟩ := ih live (hd live) s' hs'
    have known : ∀ x, K x ∨ live.Holds x → ((next live).run s').2.Knows K x :=
      fun x hx => (hK x hx).mono hk
    exact ⟨hk, fun a ha => (hsound a ha).of_knows known, htrusts.of_knows known⟩
  | call op f g next ihf ihg ih =>
    intro s hs
    obtain ⟨hop, hdf, hdg, hdn⟩ := hd
    -- the step is safe by the induction for its functions; then its answer is held
    refine (op.safe_perform hs hop (ihf hdf) (ihg hdg)).bind fun a s' _ hs ha => ?_
    exact (Body.safe_hold hs ha).bind fun _ s'' _ hs _ => ih hdn s'' hs

/-- In a fresh process nothing is held. -/
theorem Session.sound_start : (Session.start [] : Session Live).Sound K := by
  intro a ha
  cases ha

section Failures

variable {body : Body} {c : Captured}

/-- A failure in an answer that is held after a safe run. -/
theorem Safe.admits_of_mem (h : Safe K body s) {a : Answer} (ha : a ∈ (body s).2.caller)
    (hc : .failure c ∈ a.value.leaves) : (body s).2.Admits c :=
  h.sound a ha (.captured c) (Answer.carries_iff.mpr hc)

/-- A failure in the value that a safe run answered with. -/
theorem Safe.admits_of_returned (h : Safe K body s) {v : Value}
    (hv : (body s).1 = .returned (.ok v)) (hc : .failure c ∈ v.leaves) : (body s).2.Admits c := by
  have ht := h.trusts
  rw [hv] at ht
  exact ht (.captured c) hc

end Failures

/-- **Captured causes stay non-fatal.** Let a fresh process run a program, however it ends, and then
any other. Wherever a failure stands in an answer held after the first, or in what it answered,
there is a classifier in effect by which its cause is non-fatal. A classifier that is in effect
after the first is in effect after the second, and so these failures are non-fatal by the later one
too. A program that panics ends in the session that it has come to, inside of functions as well, so
the first program may be any part of a run. -/
theorem Program.captured_nonFatal (p q : Program) :
    let first := p.run (Session.start [])
    let later := (q.run first.2).2
    (∀ a ∈ first.2.caller, ∀ c, Value.failure c ∈ a.value.leaves →
      ∃ k, first.2.classifier = some k ∧ k.isFatal c.cause = false ∧
        later.classifier = some k) ∧
    (∀ v c, first.1 = .returned (.ok v) → Value.failure c ∈ v.leaves →
      ∃ k, first.2.classifier = some k ∧ k.isFatal c.cause = false ∧
        later.classifier = some k) ∧
    (∀ a ∈ later.caller, ∀ c, Value.failure c ∈ a.value.leaves →
      ∃ k, later.classifier = some k ∧ k.isFatal c.cause = false) ∧
    ∀ k, first.2.classifier = some k → later.classifier = some k := by
  intro first later
  -- a fresh process holds nothing, and every run leaves a sound session, whatever it names
  have any : ∀ _ : Condition, True := fun _ => trivial
  have hp : Safe (fun _ => True) p.run (Session.start []) :=
    p.secure_run (p.draws_of_forall any) _ Session.sound_start
  have hq : Safe (fun _ => True) q.run first.2 :=
    q.secure_run (q.draws_of_forall any) _ hp.sound
  have stays : ∀ k, first.2.classifier = some k → later.classifier = some k :=
    hq.keeps.classifier
  refine ⟨?_, ?_, ?_, stays⟩
  · intro a ha c hc
    obtain ⟨k, hk, hn⟩ := hp.admits_of_mem ha hc
    exact ⟨k, hk, hn, stays k hk⟩
  · intro v c hv hc
    obtain ⟨k, hk, hn⟩ := hp.admits_of_returned hv hc
    exact ⟨k, hk, hn, stays k hk⟩
  · intro a ha c hc
    exact hq.admits_of_mem ha hc

end Fallible

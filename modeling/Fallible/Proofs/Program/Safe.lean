import Fallible.Proofs.Judgement
import Fallible.Proofs.Program.Basic

/-!
# Runs that keep captured causes non-fatal

A session is sound when every captured cause that the caller holds is non-fatal by the classifier
in effect, which must exist as soon as there is such a cause, and when every condition that it holds
has been raised, unless the caller brought it along. A run is safe in a session when it keeps a
classifier once it is in effect and lowers no identity, leaves a sound session however it ends, and
ends with no captured cause that this session does not admit and no condition that it does not know.
Safety is closed under everything that combinators are built of, so that each of them is safe where
the functions it is given are.

## Main definitions

* `Session.Admits`, `Session.Knows`: captured causes and the classifier in effect, and conditions
  and those raised so far
* `Session.Trusts`, `Session.Sound`: what stands in an answer, and in all that the caller holds
* `Session.Keeps`: a classifier in effect stays, and so does what was raised
* `Safe`, `Preserves`: safe runs, and functions whose runs are safe

## Main results

* `Safe.bind`: safe runs one after the other
* `Safe.capture`: capturing is safe, since the judgement goes by the classifier that it leaves
* `Safe.raise`, `Safe.wrap`: raising is safe, since the new condition is known from then on
* `Attempt.safe_map`, `Attempt.safe_recover`, `Maybe.safe_fold`, …: one lemma for each combinator
-/

namespace Fallible

open Carrier (carries)

variable {σ α β γ ε : Type}

-- `K` is what a caller brings along: it may name such conditions without having been given them
variable {K : Condition → Prop}

/-! ## Sessions -/

namespace Session

/-- By the classifier in effect a captured cause is non-fatal. -/
def Admits (s : Session σ) (c : Captured) : Prop :=
  ∃ k, s.classifier = some k ∧ k.isFatal c.cause = false

/-- A condition was raised before, or is one that the caller brought along. -/
def Knows (K : Condition → Prop) (s : Session σ) (x : Condition) : Prop :=
  K x ∨ x.id < s.next

/-- A condition is known, and a captured cause is admitted. -/
def Grants (K : Condition → Prop) (s : Session σ) : Mark → Prop
  | .condition x => s.Knows K x
  | .captured c => s.Admits c

/-- All that `a` carries is granted. -/
def Trusts [Carrier α] (K : Condition → Prop) (s : Session σ) (a : α) : Prop :=
  ∀ m, carries a m → s.Grants K m

/-- All that the caller holds is trusted. -/
def Sound (K : Condition → Prop) (s : Session Live) : Prop :=
  ∀ a ∈ s.caller, s.Trusts K a

/-- A classifier in effect stays in effect, and what was raised stays raised. -/
structure Keeps (s s' : Session σ) : Prop where
  classifier : ∀ k, s.classifier = some k → s'.classifier = some k
  next_le : s.next ≤ s'.next

theorem Keeps.refl (s : Session σ) : s.Keeps s :=
  ⟨fun _ h => h, Nat.le_refl _⟩

theorem Keeps.trans {s s' s'' : Session σ} (h : s.Keeps s') (h' : s'.Keeps s'') : s.Keeps s'' :=
  ⟨fun k hk => h'.classifier k (h.classifier k hk), Nat.le_trans h.next_le h'.next_le⟩

theorem Keeps.of_eq {s s' : Session σ} (h : s'.classifier = s.classifier)
    (hn : s.next ≤ s'.next) : s.Keeps s' :=
  ⟨fun _ hk => h.trans hk, hn⟩

theorem Keeps.reporting {s s' : Session σ} (h : s.Keeps s') (e : Event) :
    s.Keeps (s'.reporting e) :=
  ⟨h.classifier, h.next_le⟩

theorem keeps_decided (s : Session σ) : s.Keeps s.decided := by
  refine ⟨fun k hk => ?_, Nat.le_refl _⟩
  rw [decided_classifier, inEffect_of_eq_some hk]

theorem Admits.mono {s s' : Session σ} {c : Captured} (h : s.Admits c)
    (hk : ∀ k, s.classifier = some k → s'.classifier = some k) : s'.Admits c := by
  obtain ⟨k, hs, hc⟩ := h
  exact ⟨k, hk k hs, hc⟩

theorem Knows.mono {s s' : Session σ} {x : Condition} (h : s.Knows K x) (hk : s.Keeps s') :
    s'.Knows K x :=
  h.imp_right fun hx => Nat.lt_of_lt_of_le hx hk.next_le

theorem Trusts.mono [Carrier α] {s s' : Session σ} {a : α} (h : s.Trusts K a) (hk : s.Keeps s') :
    s'.Trusts K a := by
  intro m hm
  have hs := h m hm
  cases m with
  | condition x => exact Knows.mono hs hk
  | captured c => exact Admits.mono hs hk.classifier

/-- What carries no more than something trusted is trusted. -/
theorem Trusts.of_carries [Carrier α] [Carrier β] {s : Session σ} {a : α} {b : β}
    (h : s.Trusts K a) (hab : ∀ m, carries b m → carries a m) : s.Trusts K b :=
  fun m hm => h m (hab m hm)

/-- The cause of a failure that is trusted may be held by itself. -/
theorem Trusts.cause [Carrier α] {s : Session σ} {c : Captured}
    (h : s.Trusts K (.failure c : Attempt α)) : s.Trusts K c.cause :=
  fun m hm => h m (Carrier.carries_of_cause hm)

theorem Sound.mono {s s' : Session Live} (h : s.Sound K) (hk : s.Keeps s')
    (hc : s'.caller = s.caller) : s'.Sound K := by
  intro a ha
  rw [hc] at ha
  exact (h a ha).mono hk

end Session

/-! ## Safe runs -/

/-- What a safe run does in a session, however it ends. -/
structure Safe [Carrier α] (K : Condition → Prop) (m : Run Live α) (s : Session Live) : Prop where
  keeps : s.Keeps (m s).2
  sound : (m s).2.Sound K
  trusts : (m s).2.Trusts K (m s).1

/-- A function whose runs are safe. -/
def Preserves [Carrier α] [Carrier β] (K : Condition → Prop) (f : α → Run Live β) : Prop :=
  ∀ s a, s.Sound K → s.Trusts K a → Safe K (f a) s

namespace Safe

variable [Carrier α] [Carrier β] {m : Run Live α} {s : Session Live}

/-- A run that leaves alone what the caller holds is safe if it ends with what is trusted. -/
theorem of_caller_eq (hs : s.Sound K) (hk : s.Keeps (m s).2) (hc : (m s).2.caller = s.caller)
    (ha : (m s).2.Trusts K (m s).1) : Safe K m s :=
  ⟨hk, hs.mono hk hc, ha⟩

theorem pure {a : α} (hs : s.Sound K) (ha : s.Trusts K a) : Safe K (Pure.pure a) s :=
  of_caller_eq hs (.refl s) rfl ha

theorem throw (hs : s.Sound K) {c : Cause} (hc : s.Trusts K c) :
    Safe K (Run.throw c : Run Live α) s :=
  of_caller_eq hs (.refl s) rfl hc

theorem panic (hs : s.Sound K) (text : String) : Safe K (Run.panic text : Run Live α) s :=
  of_caller_eq hs (.refl s) rfl fun _ hm => hm.elim

/-- **Safe runs one after the other**: the second starts in the sound session that the first left,
which trusts what it answered. -/
theorem bind {f : α → Run Live β} (hm : Safe K m s)
    (hf : ∀ a s', s.Keeps s' → s'.Sound K → s'.Trusts K a → Safe K (f a) s') :
    Safe K (m >>= f) s := by
  obtain ⟨hk, hs, ht⟩ := hm
  rcases h : m s with ⟨a | c | text, s'⟩ <;> rw [h] at hk hs ht
  · have hb : (m >>= f) s = f a s' := by rw [Run.bind_apply, h]
    obtain ⟨hk', hs', ht'⟩ := hf a s' hk hs ht
    refine ⟨?_, ?_, ?_⟩ <;> rw [hb]
    · exact hk.trans hk'
    · exact hs'
    · exact ht'
  all_goals
    -- an unwinding passes by what would come next
    refine ⟨?_, ?_, ?_⟩ <;> rw [Run.bind_apply, h]
    · exact hk
    · exact hs
    · exact ht

/-- An answer may be changed into one that carries no more. -/
theorem map {f : α → β} (hm : Safe K m s) (hf : ∀ a m, carries (f a) m → carries a m) :
    Safe K (f <$> m) s := by
  have hb : f <$> m = m >>= fun a => Pure.pure (f a) := rfl
  rw [hb]
  refine hm.bind fun a s' _ hs ht => ?_
  exact Safe.pure hs (ht.of_carries (hf a))

/-- Where a cause that caller code answers with is passed on, only what follows a value matters. -/
theorem bind_ok {m : Run Live (Except Cause α)} {f : Except Cause α → Run Live (Except Cause β)}
    (hm : Safe K m s)
    (hf : ∀ a s', s.Keeps s' → s'.Sound K → s'.Trusts K a → Safe K (f (.ok a)) s')
    (hc : ∀ c, f (.error c) = Pure.pure (.error c)) : Safe K (m >>= f) s := by
  refine hm.bind fun r s' hk hs hr => ?_
  cases r with
  | ok a => exact hf a s' hk hs hr
  | error c =>
    rw [hc]
    exact Safe.pure hs hr

end Safe

/-! ## Capturing and raising -/

section Capturing

variable [Carrier α] {s : Session Live} {c : Cause}

/-- **Capturing is safe**: what is captured was judged by the classifier that is then in effect. -/
theorem Safe.capture (hs : s.Sound K) (hc : s.Trusts K c) : Safe K (Captured.capture c) s := by
  cases hf : s.inEffect.isFatal c with
  | true =>
    have hk := s.keeps_decided.reporting (.escaping c)
    refine of_caller_eq hs ?_ ?_ ?_ <;> rw [Captured.capture_of_fatal hf]
    · exact hk
    · rfl
    · exact hc.mono hk
  | false =>
    have hk := s.keeps_decided.reporting (.captured c)
    refine of_caller_eq hs ?_ ?_ ?_ <;> rw [Captured.capture_of_not_fatal hf]
    · exact hk
    · rfl
    · rintro (x | d) hm
      · exact hc.mono hk (.condition x) hm
      · -- it carries the cause that was judged, and no other captured one
        rw [show d = ⟨c⟩ from hm]
        exact ⟨s.inEffect, rfl, hf⟩

/-- A new condition is known once it was raised. -/
theorem Session.trusts_raised {x : Condition} {s : Session σ} (hx : x.id < s.next)
    (root : Option Foreign) : s.Trusts K ({ condition := x, root } : Cause) := by
  rintro (y | d) hm
  · obtain rfl := List.mem_singleton.mp hm
    exact .inr hx
  · exact hm.elim

theorem Safe.raise (hs : s.Sound K) (kind : Kind) (message : Option String) :
    Safe K (Cause.raise kind message) s :=
  of_caller_eq hs (.of_eq rfl (Nat.le_succ _)) rfl (Session.trusts_raised (Nat.lt_succ_self _) _)

theorem Safe.adopt (hs : s.Sound K) (kind : Kind) (error : Foreign) :
    Safe K (Cause.adopt kind error) s :=
  of_caller_eq hs (.of_eq rfl (Nat.le_succ _)) rfl (Session.trusts_raised (Nat.lt_succ_self _) _)

/-- **Wrapping is safe**: of the conditions of the cause that comes of it one is new, and the others
were known before. -/
theorem Safe.wrap (hs : s.Sound K) (kind : Kind) (hc : s.Trusts K c) :
    Safe K (Cause.wrap kind c) s := by
  have hk : s.Keeps { s with next := s.next + 1 } := .of_eq rfl (Nat.le_succ _)
  refine of_caller_eq hs hk rfl ?_
  rintro (x | d) hm
  · obtain rfl | hx := List.mem_cons.mp hm
    · exact .inr (Nat.lt_succ_self _)
    · exact hc.mono hk (.condition x) hx
  · exact hm.elim

theorem Safe.fail (hs : s.Sound K) (hc : s.Trusts K c) :
    Safe K (Attempt.fail c : Run Live (Attempt α)) s :=
  (capture hs hc).map fun _ _ hm => hm

theorem Safe.ofExcept (hs : s.Sound K) {r : Except Cause α} (hr : s.Trusts K r) :
    Safe K (Attempt.ofExcept r) s := by
  cases r with
  | ok a => exact Safe.pure hs hr
  | error c => exact Safe.fail hs hr

theorem Safe.of {m : Run Live (Except Cause α)} (hm : Safe K m s) : Safe K (Attempt.of m) s :=
  hm.bind fun _ _ _ hs hr => Safe.ofExcept hs hr

theorem Safe.settle (hs : s.Sound K) {r : Except Cause (Attempt α)} (hr : s.Trusts K r) :
    Safe K (Attempt.settle r) s := by
  cases r with
  | ok t => exact Safe.pure hs hr
  | error c => exact Safe.fail hs hr

/-- Caller code whose answer is settled. -/
theorem Safe.settling {m : Run Live (Except Cause (Attempt α))} (hm : Safe K m s) :
    Safe K (m >>= Attempt.settle) s :=
  hm.bind fun _ _ _ hs hr => Safe.settle hs hr

end Capturing

/-! ## Combinators of attempts -/

namespace Attempt

variable [Carrier α] [Carrier β] [Carrier ε] {s : Session Live} {t : Attempt α}

theorem safe_get (hs : s.Sound K) (ht : s.Trusts K t) : Safe K t.get s := by
  cases t with
  | success a => exact Safe.pure hs ht
  | failure c =>
    exact (Safe.wrap hs .nonFatal ht.cause).bind fun _ _ _ hs hc => Safe.pure hs hc

theorem safe_getCause (hs : s.Sound K) (ht : s.Trusts K t) : Safe K t.getCause s := by
  cases t with
  | success a =>
    refine (Safe.raise hs .unsupported (some "Success.get_cause()")).bind fun _ _ _ hs hc => ?_
    exact Safe.pure hs hc
  | failure c => exact Safe.pure hs ht.cause

theorem safe_getOrElseGet (hs : s.Sound K) (ht : s.Trusts K t) {supplier : Run Live α}
    (hf : Safe K supplier s) : Safe K (t.getOrElseGet supplier) s := by
  cases t with
  | success a => exact Safe.pure hs ht
  | failure c => exact hf

theorem safe_getOrElseThrow (hs : s.Sound K) (ht : s.Trusts K t) {toError : Cause → Run Live ε}
    (hf : Preserves K toError) : Safe K (t.getOrElseThrow toError) s := by
  cases t with
  | success a => exact Safe.pure hs ht
  | failure c => exact (hf s c.cause hs ht.cause).map fun _ _ hm => hm

theorem safe_toSum (hs : s.Sound K) (ht : s.Trusts K t) {left : Cause → Run Live β}
    (hf : Preserves K left) : Safe K (t.toSum left) s := by
  cases t with
  | success a => exact Safe.pure hs ht
  | failure c => exact (hf s c.cause hs ht.cause).map fun _ _ hm => hm

theorem safe_fold (hs : s.Sound K) (ht : s.Trusts K t) {onFailure : Cause → Run Live β}
    {onSuccess : α → Run Live β} (hf : Preserves K onFailure) (hg : Preserves K onSuccess) :
    Safe K (t.fold onFailure onSuccess) s := by
  cases t with
  | success a => exact hg s a hs ht
  | failure c => exact hf s c.cause hs ht.cause

theorem safe_map (hs : s.Sound K) (ht : s.Trusts K t) {mapper : Checked Live α β}
    (hf : Preserves K mapper) : Safe K (t.map mapper) s := by
  cases t with
  | success a => exact Safe.of (hf s a hs ht)
  | failure c => exact Safe.pure hs ht

theorem safe_flatMap (hs : s.Sound K) (ht : s.Trusts K t) {mapper : Checked Live α (Attempt β)}
    (hf : Preserves K mapper) : Safe K (t.flatMap mapper) s := by
  cases t with
  | success a => exact Safe.settling (hf s a hs ht)
  | failure c => exact Safe.pure hs ht

theorem safe_filterOr (hs : s.Sound K) (ht : s.Trusts K t) {predicate : Predicate Live α}
    {error : α → Run Live Cause} (hf : Preserves K predicate) (hg : Preserves K error) :
    Safe K (t.filterOr predicate error) s := by
  cases t with
  | failure c => exact Safe.pure hs ht
  | success a =>
    refine (hf s a hs ht).bind fun r s' hk hs' hr => ?_
    match r with
    | .ok true => exact Safe.pure hs' (ht.mono hk)
    | .ok false =>
      -- the cause is built after the predicate ran, and is captured after that
      exact (hg s' a hs' (ht.mono hk)).bind fun _ _ _ hs hc => Safe.fail hs hc
    | .error c => exact Safe.fail hs' hr

theorem safe_filter [Shown α] (hs : s.Sound K) (ht : s.Trusts K t) {predicate : Predicate Live α}
    (hf : Preserves K predicate) : Safe K (t.filter predicate) s :=
  safe_filterOr hs ht hf fun _ _ hs _ => Safe.raise hs _ _

theorem safe_mapFailure (hs : s.Sound K) (ht : s.Trusts K t) {mapper : Checked Live Cause Cause}
    (hf : Preserves K mapper) : Safe K (t.mapFailure mapper) s := by
  cases t with
  | success a => exact Safe.pure hs ht
  | failure c =>
    refine (hf s c.cause hs ht.cause).bind fun r s' _ hs hr => ?_
    cases r with
    | ok mapped => exact Safe.fail hs hr
    | error mapped => exact Safe.fail hs hr

theorem safe_recover (hs : s.Sound K) (ht : s.Trusts K t) (kind : Kind)
    {recovery : Checked Live Cause α} (hf : Preserves K recovery) :
    Safe K (t.recover kind recovery) s := by
  cases t with
  | success a => exact Safe.pure hs ht
  | failure c =>
    have hr := hf s c.cause hs ht.cause
    show Safe K
      (if c.cause.isA kind then Attempt.of (recovery c.cause) else Pure.pure (failure c)) s
    split
    · exact Safe.of hr
    · exact Safe.pure hs ht

theorem safe_recoverWith (hs : s.Sound K) (ht : s.Trusts K t) (kind : Kind)
    {recovery : Checked Live Cause (Attempt α)} (hf : Preserves K recovery) :
    Safe K (t.recoverWith kind recovery) s := by
  cases t with
  | success a => exact Safe.pure hs ht
  | failure c =>
    have hr := hf s c.cause hs ht.cause
    show Safe K
      (if c.cause.isA kind then recovery c.cause >>= settle else Pure.pure (failure c)) s
    split
    · exact Safe.settling hr
    · exact Safe.pure hs ht

theorem safe_orElse (hs : s.Sound K) (ht : s.Trusts K t)
    {supplier : Run Live (Except Cause (Attempt α))} (hf : Safe K supplier s) :
    Safe K (t.orElse supplier) s := by
  cases t with
  | success a => exact Safe.pure hs ht
  | failure c => exact Safe.settling hf

theorem safe_transform (hs : s.Sound K) (ht : s.Trusts K t)
    {ifFailure : Checked Live Cause (Attempt β)} {ifSuccess : Checked Live α (Attempt β)}
    (hf : Preserves K ifFailure) (hg : Preserves K ifSuccess) :
    Safe K (t.transform ifFailure ifSuccess) s := by
  cases t with
  | success a => exact Safe.settling (hg s a hs ht)
  | failure c => exact Safe.settling (hf s c.cause hs ht.cause)

theorem safe_failed (hs : s.Sound K) (ht : s.Trusts K t) : Safe K t.failed s := by
  cases t with
  | success a =>
    exact (Safe.raise hs .unsupported (some "Success.failed()")).bind fun _ _ _ hs hc =>
      Safe.fail hs hc
  | failure c => exact Safe.pure hs ht.cause

theorem safe_forEach (hs : s.Sound K) (ht : s.Trusts K t) {consumer : Consumer Live α}
    (hf : Preserves K consumer) : Safe K (t.forEach consumer) s := by
  cases t with
  | success a => exact hf s a hs ht
  | failure c => exact Safe.pure hs fun _ hm => hm.elim

/-- What an observer passes on: the receiver, unless the consumer answered with a cause. -/
theorem safe_observed (ht : s.Trusts K t) {m : Run Live (Except Cause Unit)}
    (hm : Safe K m s) : Safe K (do return (← m).map fun () => t : Run Live (Except Cause _)) s :=
  hm.bind_ok (fun _ _ hk hs _ => Safe.pure hs (ht.mono hk)) fun _ => rfl

theorem safe_onSuccess (hs : s.Sound K) (ht : s.Trusts K t) {consumer : Consumer Live α}
    (hf : Preserves K consumer) : Safe K (t.onSuccess consumer) s := by
  cases t with
  | success a => exact safe_observed ht (hf s a hs ht)
  | failure c => exact Safe.pure hs ht

theorem safe_onFailure (hs : s.Sound K) (ht : s.Trusts K t) {consumer : Consumer Live Cause}
    (hf : Preserves K consumer) : Safe K (t.onFailure consumer) s := by
  cases t with
  | success a => exact Safe.pure hs ht
  | failure c => exact safe_observed ht (hf s c.cause hs ht.cause)

end Attempt

/-! ## Combinators of maybes -/

namespace Maybe

variable [Carrier α] [Carrier β] [Carrier ε] {s : Session Live} {m : Maybe α}

theorem safe_when (hs : s.Sound K) (condition : Bool) {supplier : Run Live α}
    (hf : Safe K supplier s) : Safe K (when condition supplier) s := by
  cases condition with
  | true => exact hf.map fun _ _ hm => hm
  | false => exact Safe.pure hs fun _ hm => hm.elim

theorem safe_get (hs : s.Sound K) (ht : s.Trusts K m) : Safe K m.get s := by
  cases m with
  | present a => exact Safe.pure hs ht
  | absent =>
    refine (Safe.raise hs .noSuchElement (some "None.get()")).bind fun _ _ _ hs hc => ?_
    exact Safe.pure hs hc

theorem safe_getOrElseGet (hs : s.Sound K) (ht : s.Trusts K m) {supplier : Run Live α}
    (hf : Safe K supplier s) : Safe K (m.getOrElseGet supplier) s := by
  cases m with
  | present a => exact Safe.pure hs ht
  | absent => exact hf

theorem safe_getOrElseThrow (hs : s.Sound K) (ht : s.Trusts K m) {error : Run Live ε}
    (hf : Safe K error s) : Safe K (m.getOrElseThrow error) s := by
  cases m with
  | present a => exact Safe.pure hs ht
  | absent => exact hf.map fun _ _ hm => hm

theorem safe_toSum (hs : s.Sound K) (ht : s.Trusts K m) {left : Run Live β} (hf : Safe K left s) :
    Safe K (m.toSum left) s := by
  cases m with
  | present a => exact Safe.pure hs ht
  | absent => exact hf.map fun _ _ hm => hm

theorem safe_fold (hs : s.Sound K) (ht : s.Trusts K m) {ifAbsent : Run Live β}
    {ifPresent : α → Run Live β} (hf : Safe K ifAbsent s) (hg : Preserves K ifPresent) :
    Safe K (m.fold ifAbsent ifPresent) s := by
  cases m with
  | present a => exact hg s a hs ht
  | absent => exact hf

theorem safe_filter (hs : s.Sound K) (ht : s.Trusts K m) {predicate : α → Run Live Bool}
    (hf : Preserves K predicate) : Safe K (m.filter predicate) s := by
  cases m with
  | absent => exact Safe.pure hs ht
  | present a =>
    refine (hf s a hs ht).bind fun b s' hk hs' _ => ?_
    cases b with
    | true => exact Safe.pure hs' (ht.mono hk)
    | false => exact Safe.pure hs' fun _ hm => hm.elim

theorem safe_map (hs : s.Sound K) (ht : s.Trusts K m) {mapper : α → Run Live β}
    (hf : Preserves K mapper) : Safe K (m.map mapper) s := by
  cases m with
  | present a => exact (hf s a hs ht).map fun _ _ hm => hm
  | absent => exact Safe.pure hs fun _ hm => hm.elim

theorem safe_flatMap (hs : s.Sound K) (ht : s.Trusts K m) {mapper : α → Run Live (Maybe β)}
    (hf : Preserves K mapper) : Safe K (m.flatMap mapper) s := by
  cases m with
  | present a => exact hf s a hs ht
  | absent => exact Safe.pure hs fun _ hm => hm.elim

theorem safe_orElse (hs : s.Sound K) (ht : s.Trusts K m) {supplier : Run Live (Maybe α)}
    (hf : Safe K supplier s) : Safe K (m.orElse supplier) s := by
  cases m with
  | present a => exact Safe.pure hs ht
  | absent => exact hf

theorem safe_transform (hs : s.Sound K) (ht : s.Trusts K m) {ifAbsent : Run Live (Maybe β)}
    {ifPresent : α → Run Live (Maybe β)} (hf : Safe K ifAbsent s) (hg : Preserves K ifPresent) :
    Safe K (m.transform ifAbsent ifPresent) s := by
  cases m with
  | present a => exact hg s a hs ht
  | absent => exact hf

theorem safe_onAbsent (hs : s.Sound K) (ht : s.Trusts K m) {action : Run Live Unit}
    (hf : Safe K action s) : Safe K (m.onAbsent action) s := by
  cases m with
  | present a => exact Safe.pure hs ht
  | absent => exact hf.bind fun _ _ hk hs _ => Safe.pure hs (ht.mono hk)

theorem safe_onPresent (hs : s.Sound K) (ht : s.Trusts K m) {action : α → Run Live Unit}
    (hf : Preserves K action) : Safe K (m.onPresent action) s := by
  cases m with
  | present a => exact (hf s a hs ht).bind fun _ _ hk hs _ => Safe.pure hs (ht.mono hk)
  | absent => exact Safe.pure hs ht

theorem safe_toAttempt (hs : s.Sound K) (ht : s.Trusts K m) {ifAbsent : Run Live Cause}
    (hf : Safe K ifAbsent s) : Safe K (m.toAttempt ifAbsent) s := by
  cases m with
  | present a => exact Safe.pure hs ht
  | absent => exact hf.bind fun _ _ _ hs hc => Safe.fail hs hc

end Maybe

end Fallible

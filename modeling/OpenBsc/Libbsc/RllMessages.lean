import Mathlib.Data.List.Nodup
import OpenBsc.Libbsc.Rll

/-!
# `Libbsc.RllMessages` — every request is completed once, and what becomes of the messages

The callback of each request is invoked once, whatever happens. A message that waits for a link is sent once after the
link is there, behind those that waited before it, or rejected and freed, in a run in which every request is sent to the
BTS, a request with a message is only completed while its channel has a connection, and a link is only confirmed while
one message at most waits for it, under the link identifier of the request.
-/

namespace OpenBsc.Libbsc

open Transition RllNet RllOut ReachableBy Option List

variable {net net' : RllNet}

/-! ## Requests -/

/-- The request an output is about. -/
def RllOut.id? : RllOut → Option Nat
  | .queued id _ _ | .callback id _ | .data id _ _ | .reject id _ | .freed id => some id
  | .direct _ _ => none

/-- The callback of the request is invoked. -/
def RllOut.calls (id : Nat) : RllOut → Bool
  | .callback id' _ => id' = id
  | _ => false

/-- The message of the request is sent. -/
def RllOut.sends (id : Nat) : RllOut → Bool
  | .data id' _ _ => id' = id
  | _ => false

/-- The message of the request is rejected. -/
def RllOut.rejects (id : Nat) : RllOut → Bool
  | .reject id' _ => id' = id
  | _ => false

/-- Each request is in the list, or its callback was invoked once. -/
structure RllOnce (net : RllNet) : Prop where
  ids : (net.reqs.map BscRllReq.id).Nodup
  fresh : ∀ r ∈ net.reqs, r.id < net.next
  known : ∀ out ∈ net.outs, ∀ i, out.id? = some i → i < net.next
  called : ∀ i < net.next, net.outs.countP (RllOut.calls i) + (if i ∈ net.reqs.map BscRllReq.id then 1 else 0) = 1

variable {r : BscRllReq}

variable {out : RllOut}

theorem RllOut.id?_of_calls {i : Nat} (h : out.calls i = true) : out.id? = some i := by
  cases out with
  | callback j ind => exact congrArg some (of_decide_eq_true h)
  | _ => cases h

/-- The requests stay as they are, and no callback is invoked. -/
theorem RllOnce.quiet (h : RllOnce net) (outs : List RllOut) (hreqs : net'.reqs = net.reqs)
    (hnext : net'.next = net.next) (hlog : net'.outs = net.outs ++ outs) (houts : ∀ out ∈ outs, out.id? = none) :
    RllOnce net' := by
  constructor
  case ids => exact hreqs ▸ h.ids
  case fresh =>
    rw [hreqs, hnext]
    exact h.fresh
  case known =>
    intro out hout i hi
    rw [hnext]
    rw [hlog, mem_append] at hout
    rcases hout with hout | hout
    · exact h.known out hout i hi
    · rw [houts out hout] at hi
      cases hi
  case called =>
    intro i hi
    rw [hnext] at hi
    have hnone : outs.countP (calls i) = 0 := by
      refine countP_eq_zero.mpr ?_
      intro out hout hcall
      have hid := houts out hout
      rw [id?_of_calls hcall] at hid
      cases hid
    rw [hlog, countP_append, hnone, hreqs]
    exact h.called i hi

theorem RllOnce.add (h : RllOnce net) (r : BscRllReq) (outs : List RllOut) (hid : r.id = net.next)
    (hreqs : net'.reqs = r :: net.reqs) (hnext : net'.next = net.next + 1) (hlog : net'.outs = net.outs ++ outs)
    (houts : ∀ out ∈ outs, out.id? = some net.next ∧ ∀ i, out.calls i = false) : RllOnce net' := by
  have hunused : net.next ∉ net.reqs.map BscRllReq.id := by
    intro hin
    obtain ⟨q, hq, hqid⟩ := mem_map.mp hin
    exact absurd (h.fresh q hq) (by rw [hqid]; exact Nat.lt_irrefl _)
  constructor
  case ids =>
    rw [hreqs, map_cons, hid]
    exact nodup_cons.mpr ⟨hunused, h.ids⟩
  case fresh =>
    intro q hq
    rw [hnext]
    rw [hreqs] at hq
    rcases mem_cons.mp hq with rfl | hq
    · rw [hid]
      exact Nat.lt_succ_self _
    · exact Nat.lt_succ_of_lt (h.fresh q hq)
  case known =>
    intro out hout i hi
    rw [hnext]
    rw [hlog, mem_append] at hout
    rcases hout with hout | hout
    · exact Nat.lt_succ_of_lt (h.known out hout i hi)
    · rw [(houts out hout).1] at hi
      cases hi
      exact Nat.lt_succ_self _
  case called =>
    intro i hi
    rw [hnext] at hi
    have hnone : outs.countP (calls i) = 0 := by
      refine countP_eq_zero.mpr ?_
      intro out hout hcall
      rw [(houts out hout).2 i] at hcall
      cases hcall
    rw [hlog, countP_append, hnone, hreqs, map_cons, hid]
    by_cases hnew : i = net.next
    · have hzero : net.outs.countP (calls i) = 0 := by
        refine countP_eq_zero.mpr ?_
        intro out hout hcall
        have hlt := h.known out hout i (id?_of_calls hcall)
        omega
      rw [hzero, if_pos (by simp [hnew])]
    · have hold := h.called i (by omega)
      simpa [hnew] using hold

/-- What follows the callback of a request: nothing, where it is somebody else's or the channel has no connection; or
    its message is sent, or rejected and freed. -/
inductive Ending (net : RllNet) (r : BscRllReq) : BscRllrInd → List RllOut → Prop where
  | other (ind : BscRllrInd) (h : r.msg = none) : Ending net r ind []
  | lost (ind : BscRllrInd) (h : net.connOf r.lchan = none) : Ending net r ind []
  | sent (msgLink : Octet) (hmsg : r.msg = some msgLink) : Ending net r .estConf [.data r.id r.lchan msgLink]
  | rejected (ind : BscRllrInd) (msgLink : Octet) (hmsg : r.msg = some msgLink) :
      Ending net r ind [.reject r.id msgLink, .freed r.id]

/-- **The completion of a request.** -/
theorem completeRllr_spec (net : RllNet) (r : BscRllReq) (ind : BscRllrInd) :
    (net.completeRllr r ind).reqs = net.reqs.filter (fun q => q.id ≠ r.id) ∧
      (net.completeRllr r ind).next = net.next ∧
      ∃ tail, Ending net r ind tail ∧ (net.completeRllr r ind).outs = net.outs ++ .callback r.id ind :: tail := by
  unfold completeRllr
  dsimp only
  cases hmsg : r.msg with
  | none => exact ⟨rfl, rfl, [], .other ind hmsg, rfl⟩
  | some msgLink =>
    have hconn : connOf (emit { net with reqs := net.reqs.filter fun q => q.id ≠ r.id } (.callback r.id ind))
        r.lchan = net.connOf r.lchan := rfl
    dsimp only [rllIndCb]
    rw [hconn]
    cases hc : net.connOf r.lchan with
    | none => exact ⟨rfl, rfl, [], .lost ind hc, rfl⟩
    | some c =>
      have hrejected : Ending net r ind [.reject r.id msgLink, .freed r.id] := .rejected ind msgLink hmsg
      have happend (out : RllOut) :
          ((net.outs ++ [.callback r.id ind]) ++ [out]) = net.outs ++ [.callback r.id ind, out] :=
        append_assoc _ _ _
      cases ind with
      | estConf => exact ⟨rfl, rfl, _, .sent msgLink hmsg, happend _⟩
      | relInd | errInd | timeout => exact ⟨rfl, rfl, _, hrejected, by simp [emit]⟩

variable {ind : BscRllrInd}

theorem Ending.about {tail : List RllOut} (h : Ending net r ind tail) :
    ∀ out ∈ tail, out.id? = some r.id ∧ ∀ i, out.calls i = false := by
  intro out hout
  cases h with
  | other | lost => cases hout
  | sent msgLink =>
    rw [mem_singleton.mp hout]
    exact ⟨rfl, fun _ => rfl⟩
  | rejected ind msgLink =>
    rcases mem_cons.mp hout with rfl | hout
    · exact ⟨rfl, fun _ => rfl⟩
    · rw [mem_singleton.mp hout]
      exact ⟨rfl, fun _ => rfl⟩

theorem RllOnce.completeRllr (h : RllOnce net) (hr : r ∈ net.reqs) (ind : BscRllrInd) :
    RllOnce (net.completeRllr r ind) := by
  obtain ⟨hreqs, hnext, tail, hending, hlog⟩ := completeRllr_spec net r ind
  have habout := hending.about
  constructor
  case ids =>
    rw [hreqs]
    exact h.ids.sublist (filter_sublist.map BscRllReq.id)
  case fresh =>
    intro q hq
    rw [hreqs] at hq
    rw [hnext]
    exact h.fresh q (mem_filter.mp hq).1
  case known =>
    intro out hout i hi
    rw [hnext]
    rw [hlog, mem_append, mem_cons] at hout
    rcases hout with hout | rfl | hout
    · exact h.known out hout i hi
    · cases hi
      exact h.fresh r hr
    · rw [(habout out hout).1] at hi
      cases hi
      exact h.fresh r hr
  case called =>
    intro i hi
    rw [hnext] at hi
    have hnone : tail.countP (calls i) = 0 := by
      refine countP_eq_zero.mpr ?_
      intro out hout hcall
      rw [(habout out hout).2 i] at hcall
      cases hcall
    have hold := h.called i hi
    have hids : i ∈ (net.completeRllr r ind).reqs.map BscRllReq.id ↔ i ∈ net.reqs.map BscRllReq.id ∧ i ≠ r.id := by
      rw [hreqs]
      simp only [List.mem_map, List.mem_filter, decide_eq_true_eq]
      constructor
      · rintro ⟨q, ⟨hq, hne⟩, rfl⟩
        exact ⟨⟨q, hq, rfl⟩, hne⟩
      · rintro ⟨⟨q, hq, rfl⟩, hne⟩
        exact ⟨q, ⟨hq, hne⟩, rfl⟩
    rw [hlog, countP_append, countP_cons, hnone]
    simp only [hids]
    by_cases hi' : i = r.id
    · subst hi'
      rw [if_pos (mem_map_of_mem hr)] at hold
      have hcalls : calls r.id (.callback r.id ind) = true := decide_eq_true rfl
      rw [hcalls, if_pos rfl, if_neg (fun hin => hin.2 rfl)]
      omega
    · simpa [calls, Ne.symm hi', hi'] using hold

/-- What the completion of a request keeps, the completion of several keeps. -/
theorem foldl_completeRllr {P : RllNet → Prop} {Q : BscRllReq → Prop}
    (hP : ∀ net r, Q r → P net → r ∈ net.reqs → P (net.completeRllr r ind)) {l : List BscRllReq}
    (hl : (l.map BscRllReq.id).Nodup) (hmem : ∀ r ∈ l, r ∈ net.reqs) (hQ : ∀ r ∈ l, Q r) (h : P net) :
    P (l.foldl (fun net r => net.completeRllr r ind) net) := by
  induction l generalizing net with
  | nil => exact h
  | cons r l ih =>
    obtain ⟨hnew, hl⟩ := nodup_cons.mp hl
    refine ih hl ?_ (fun q hq => hQ q (mem_cons_of_mem r hq))
      (hP net r (hQ r mem_cons_self) h (hmem r mem_cons_self))
    intro q hq
    rw [(completeRllr_spec net r ind).1]
    refine mem_filter.mpr ⟨hmem q (mem_cons_of_mem r hq), decide_eq_true ?_⟩
    intro hid
    exact hnew (hid ▸ mem_map_of_mem hq)

theorem RllOnce.modifyLchan (h : RllOnce net) (l : Nat) (f : RllLchan → RllLchan) : RllOnce (net.modifyLchan l f) :=
  h.quiet [] rfl rfl (append_nil _).symm (forall_mem_nil _)

theorem RllOnce.lchanFreed (h : RllOnce net) (l : Nat) : RllOnce (net.lchanFreed l) := by
  refine foldl_completeRllr (Q := fun _ => True) (fun _ r _ h hr => h.completeRllr hr .errInd) ?_ ?_
    (fun _ _ => trivial) (h.modifyLchan l _)
  · exact h.ids.sublist (filter_sublist.map BscRllReq.id)
  · exact fun r hr => (mem_filter.mp hr).1

theorem RllOnce.rllIndication (h : RllOnce net) (l : Nat) (linkId : Octet) (ind : BscRllrInd) :
    RllOnce (net.rllIndication l linkId ind) := by
  unfold RllNet.rllIndication
  cases hfind : net.findReq l linkId with
  | none => exact h
  | some r => exact h.completeRllr (mem_of_find?_eq_some hfind) ind

/-- A message that the connection submits would wait for its link. -/
def waits (net : RllNet) (c : Nat) (linkId : Octet) : Bool :=
  ((net.connLchan c).bind fun l => net.lchans[l]?).any fun lchan => decide (lchan.sapis.get (sapiOf linkId) = .unused)

/-- A message is submitted: nothing happens, it is sent at once, or it waits in a request. -/
theorem gsm0808SubmitDtap_cases (net : RllNet) (c : Nat) (linkId : Octet) (allowSach sent : Bool) :
    net.gsm0808SubmitDtap c linkId allowSach sent = net ∨
    (∃ l msgLink, net.gsm0808SubmitDtap c linkId allowSach sent = net.emit (.direct l msgLink)) ∨
    waits net c linkId = true ∧ ∃ r : BscRllReq, ∃ msgLink outs, r.id = net.next ∧ r.msg = some msgLink ∧
      (net.gsm0808SubmitDtap c linkId allowSach sent).reqs = r :: net.reqs ∧
      (net.gsm0808SubmitDtap c linkId allowSach sent).next = net.next + 1 ∧
      (net.gsm0808SubmitDtap c linkId allowSach sent).outs = net.outs ++ .queued r.id r.lchan r.linkId :: outs ∧
      (sent = true ∧ outs = [] ∨ sent = false ∧ outs = [.freed r.id, .reject r.id msgLink]) := by
  unfold gsm0808SubmitDtap
  cases hl : net.connLchan c with
  | none => exact .inl rfl
  | some l =>
    dsimp only
    cases hlchan : net.lchans[l]? with
    | none => exact .inl rfl
    | some lchan =>
      dsimp only
      split
      · rename_i hunused
        have hwaits : waits net c linkId = true := by
          rw [waits, hl, bind_some, hlchan, any_some]
          exact decide_eq_true hunused
        refine .inr (.inr ⟨hwaits,
          ⟨net.next, l, rllLinkId lchan (linkId &&& 7), some (dtapLinkId lchan linkId allowSach)⟩,
          dtapLinkId lchan linkId allowSach,
          if sent then [] else [.freed net.next, .reject net.next (dtapLinkId lchan linkId allowSach)], rfl, rfl, ?_⟩)
        cases sent with
        | true => exact ⟨rfl, rfl, rfl, .inl ⟨rfl, rfl⟩⟩
        | false => exact ⟨rfl, rfl, by simp [emit, rllEstablish], .inr ⟨rfl, rfl⟩⟩
      · exact .inr (.inl ⟨l, _, rfl⟩)

theorem RllOnce.gsm0808SubmitDtap (h : RllOnce net) (c : Nat) (linkId : Octet) (allowSach sent : Bool) :
    RllOnce (net.gsm0808SubmitDtap c linkId allowSach sent) := by
  rcases gsm0808SubmitDtap_cases net c linkId allowSach sent with
    heq | ⟨l, msgLink, heq⟩ | ⟨-, r, msgLink, outs, hid, -, hreqs, hnext, hlog, houts⟩
  · rw [heq]
    exact h
  · rw [heq]
    exact h.quiet [.direct l msgLink] rfl rfl rfl (by simp [id?])
  · refine h.add _ _ hid hreqs hnext hlog ?_
    rw [← hid]
    rcases houts with ⟨-, rfl⟩ | ⟨-, rfl⟩
    · simp [id?, calls]
    · simp [id?, calls]

/-- **The step, for the callbacks.** -/
theorem RllOnce.step (h : RllOnce net) {ev : RllEvent} (hstep : net.step ev = some net') : RllOnce net' := by
  cases ev with
  | setConn l c? =>
    cases hstep
    exact h.modifyLchan l _
  | setLchan c l? =>
    cases hstep
    exact h.quiet [] rfl rfl (append_nil _).symm (forall_mem_nil _)
  | alloc l type =>
    cases hstep
    exact h.modifyLchan l _
  | freed l =>
    cases hstep
    exact h.lchanFreed l
  | submit c linkId allowSach sent =>
    cases hstep
    exact h.gsm0808SubmitDtap c linkId allowSach sent
  | establish l sapi =>
    obtain ⟨lchan, -, rfl⟩ := map_eq_some_iff.mp hstep
    exact h.add ⟨net.next, l, rllLinkId lchan sapi, none⟩ [] rfl rfl rfl (append_nil _).symm
      (forall_mem_nil _)
  | estInd l linkId =>
    cases hstep
    exact h.modifyLchan l _
  | estConf l linkId =>
    cases hstep
    exact (h.modifyLchan l _).rllIndication l linkId .estConf
  | relInd l linkId =>
    cases hstep
    exact (h.modifyLchan l _).rllIndication l linkId .relInd
  | relConf l linkId =>
    cases hstep
    exact h.modifyLchan l _
  | errInd l linkId =>
    cases hstep
    exact h.rllIndication l linkId .errInd
  | timeout id =>
    obtain ⟨r, hr, rfl⟩ := map_eq_some_iff.mp hstep
    exact h.completeRllr (mem_of_find?_eq_some hr) .timeout

/-! ## Messages -/

theorem sameLink_iff {a b : Octet} : sameLink a b = true ↔ a &&& linkidMask = b &&& linkidMask := beq_iff_eq

/-- The request has no message, or its channel has a connection. -/
def answerable (net : RllNet) (r : BscRllReq) : Bool := r.msg.isNone || (net.connOf r.lchan).isSome

/-- How many messages wait for the link. -/
def waiting (net : RllNet) (l : Nat) (linkId : Octet) : Nat :=
  net.reqs.countP fun r => r.msg.isSome && r.lchan == l && sameLink r.linkId linkId

/-- The step asks the BTS for every link that a message waits for; completes a request with a message only where its
    channel has a connection; and confirms a link under the identifier of the message, and with no other message waiting
    for it. -/
def keepsMessages (net : RllNet) : RllEvent → Bool
  | .submit c linkId _ sent => sent || !waits net c linkId
  | .estConf l linkId => (net.findReq l linkId).all fun r =>
    answerable net r && r.msg.all fun msgLink => sameLink msgLink r.linkId && waiting net l linkId == 1
  | .relInd l linkId | .errInd l linkId => (net.findReq l linkId).all (answerable net)
  | .timeout id => (net.reqs.find? fun r => r.id = id).all (answerable net)
  | .freed l => net.reqs.all fun r => r.lchan != l || r.msg.isNone
  | _ => true

/-- Each message that waited is still in its request, was sent once on its link after that was confirmed, or was
    rejected and freed once; and messages for one link are sent in their order. -/
structure RllInv (net : RllNet) : Prop extends RllOnce net where
  listed : ∀ r ∈ net.reqs, ∀ l k, RllOut.queued r.id l k ∈ net.outs → r.msg.isSome = true ∧ l = r.lchan ∧ k = r.linkId
  queued : ∀ r ∈ net.reqs, r.msg.isSome = true → RllOut.queued r.id r.lchan r.linkId ∈ net.outs
  settled : ∀ i l k, RllOut.queued i l k ∈ net.outs →
    net.outs.countP (RllOut.sends i) + net.outs.countP (RllOut.rejects i) +
      (if i ∈ net.reqs.map BscRllReq.id then 1 else 0) = 1
  freed : ∀ i, net.outs.count (.freed i) = net.outs.countP (RllOut.rejects i)
  links : ∀ i l' k', RllOut.data i l' k' ∈ net.outs → ∀ l k, RllOut.queued i l k ∈ net.outs →
    l' = l ∧ sameLink k' k = true
  confirmed : ∀ i l k, RllOut.data i l k ∈ net.outs → RllOut.callback i .estConf ∈ net.outs
  ahead : ∀ i l k, RllOut.data i l k ∈ net.outs → ∀ r ∈ net.reqs, r.msg.isSome = true → r.lchan = l →
    sameLink r.linkId k = true → i < r.id
  ordered : net.outs.Pairwise fun x y => ∀ i j l k k', x = .data i l k → y = .data j l k' → sameLink k k' = true → i < j

/-- **A quiet change.** The requests stay, and nothing is written about a message that waited. -/
theorem RllInv.quiet (h : RllInv net) (outs : List RllOut) (hreqs : net'.reqs = net.reqs)
    (hnext : net'.next = net.next) (hlog : net'.outs = net.outs ++ outs) (houts : ∀ out ∈ outs, out.id? = none) :
    RllInv net' := by
  have hold {out : RllOut} {i : Nat} (hid : out.id? = some i) (hmem : out ∈ net'.outs) : out ∈ net.outs := by
    rw [hlog, mem_append] at hmem
    refine hmem.resolve_right fun hin => ?_
    rw [houts out hin] at hid
    cases hid
  have hcount (q : RllOut → Bool) (hq : ∀ out, q out = true → out.id? ≠ none) :
      net'.outs.countP q = net.outs.countP q := by
    have hnone : outs.countP q = 0 :=
      countP_eq_zero.mpr fun out hout hqout => hq out hqout (houts out hout)
    rw [hlog, countP_append, hnone, Nat.add_zero]
  have hsends (i : Nat) : net'.outs.countP (sends i) = net.outs.countP (sends i) := by
    refine hcount _ ?_
    rintro (_ | _ | _ | _ | _ | _) hout
    all_goals first | exact some_ne_none _ | cases hout
  have hrejects (i : Nat) : net'.outs.countP (rejects i) = net.outs.countP (rejects i) := by
    refine hcount _ ?_
    rintro (_ | _ | _ | _ | _ | _) hout
    all_goals first | exact some_ne_none _ | cases hout
  constructor
  case toRllOnce => exact h.toRllOnce.quiet outs hreqs hnext hlog houts
  case listed => exact fun r hr l k hmem => h.listed r (hreqs ▸ hr) l k (hold rfl hmem)
  case queued =>
    intro r hr hmsg
    rw [hlog]
    exact mem_append_left _ (h.queued r (hreqs ▸ hr) hmsg)
  case settled =>
    intro i l k hmem
    rw [hsends, hrejects, hreqs]
    exact h.settled i l k (hold rfl hmem)
  case freed =>
    intro i
    rw [hrejects, ← h.freed i]
    refine hcount (· == .freed i) ?_
    intro out hout
    rw [eq_of_beq hout]
    exact some_ne_none i
  case links => exact fun i l' k' hdata l k hmem => h.links i l' k' (hold rfl hdata) l k (hold rfl hmem)
  case confirmed =>
    intro i l k hdata
    rw [hlog]
    exact mem_append_left _ (h.confirmed i l k (hold rfl hdata))
  case ahead => exact fun i l k hdata r hr => h.ahead i l k (hold rfl hdata) r (hreqs ▸ hr)
  case ordered =>
    rw [hlog]
    refine pairwise_append.mpr ⟨h.ordered, ?_, ?_⟩
    · refine pairwise_of_forall_mem_list ?_
      intro x hx y _ i j l k k' hxi
      rw [hxi] at hx
      cases houts _ hx
    · intro x _ y hy i j l k k' _ hyj
      rw [hyj] at hy
      cases houts _ hy

/-- An output about a request that is not made yet. -/
theorem RllInv.not_mem (h : RllInv net) (hid : out.id? = some net.next) : out ∉ net.outs :=
  fun hmem => Nat.lt_irrefl _ (h.known out hmem _ hid)

theorem RllOut.id?_of_sends {i : Nat} (h : out.sends i = true) : out.id? = some i := by
  cases out with
  | data j l k => exact congrArg some (of_decide_eq_true h)
  | _ => cases h

theorem RllOut.id?_of_rejects {i : Nat} (h : out.rejects i = true) : out.id? = some i := by
  cases out with
  | reject j k => exact congrArg some (of_decide_eq_true h)
  | _ => cases h

/-- **A new request**, of somebody else or with a message. -/
theorem RllInv.add (h : RllInv net) (r : BscRllReq) (outs : List RllOut) (hid : r.id = net.next)
    (hreqs : net'.reqs = r :: net.reqs) (hnext : net'.next = net.next + 1) (hlog : net'.outs = net.outs ++ outs)
    (houts : r.msg = none ∧ outs = [] ∨ r.msg.isSome = true ∧ outs = [.queued r.id r.lchan r.linkId]) :
    RllInv net' := by
  have honly {out : RllOut} (hout : out ∈ outs) : r.msg.isSome = true ∧ out = .queued r.id r.lchan r.linkId := by
    rcases houts with ⟨-, rfl⟩ | ⟨hmsg, rfl⟩
    · cases hout
    · exact ⟨hmsg, mem_singleton.mp hout⟩
  have hmem {out : RllOut} (hout : out ∈ net'.outs) :
      out ∈ net.outs ∨ r.msg.isSome = true ∧ out = .queued r.id r.lchan r.linkId := by
    rw [hlog, mem_append] at hout
    exact hout.imp_right honly
  have hdata {i l : Nat} {k : Octet} (hout : data i l k ∈ net'.outs) : data i l k ∈ net.outs :=
    (hmem hout).resolve_right fun heq => RllOut.noConfusion heq.2
  have hcount (q : RllOut → Bool) (hq : q (.queued r.id r.lchan r.linkId) = false) :
      net'.outs.countP q = net.outs.countP q := by
    have hnone : outs.countP q = 0 := by
      refine countP_eq_zero.mpr ?_
      intro out hout
      rw [(honly hout).2, hq]
      exact Bool.false_ne_true
    rw [hlog, countP_append, hnone, Nat.add_zero]
  have hunknown (q : RllOut → Bool) (hq : ∀ out, q out = true → out.id? = some net.next) :
      net.outs.countP q = 0 :=
    countP_eq_zero.mpr fun out hout hqout => h.not_mem (hq out hqout) hout
  constructor
  case toRllOnce =>
    refine h.toRllOnce.add r outs hid hreqs hnext hlog ?_
    intro out hout
    rw [(honly hout).2, ← hid]
    exact ⟨rfl, fun _ => rfl⟩
  case listed =>
    intro q hq l k hout
    rw [hreqs] at hq
    rcases hmem hout with hout | ⟨hmsg, heq⟩
    · rcases mem_cons.mp hq with rfl | hq
      · exact absurd hout (h.not_mem (congrArg some hid))
      · exact h.listed q hq l k hout
    · obtain ⟨hqr, rfl, rfl⟩ := queued.inj heq
      rcases mem_cons.mp hq with rfl | hq
      · exact ⟨hmsg, rfl, rfl⟩
      · have hlt := h.fresh q hq
        omega
  case queued =>
    intro q hq hmsg
    rw [hreqs] at hq
    rw [hlog, mem_append]
    rcases mem_cons.mp hq with rfl | hq
    · rcases houts with ⟨hnone, -⟩ | ⟨-, rfl⟩
      · rw [hnone] at hmsg
        cases hmsg
      · exact .inr (mem_singleton.mpr rfl)
    · exact .inl (h.queued q hq hmsg)
  case settled =>
    intro i l k hout
    rw [hcount _ rfl, hcount _ rfl, hreqs, map_cons, hid]
    rcases hmem hout with hout | ⟨-, heq⟩
    · have hlt := h.known _ hout i rfl
      have hne : i ≠ net.next := Nat.ne_of_lt hlt
      have hold := h.settled i l k hout
      simpa [hne] using hold
    · cases heq
      rw [hid, hunknown _ fun out => id?_of_sends, hunknown _ fun out => id?_of_rejects, if_pos mem_cons_self]
  case freed =>
    intro i
    rw [hcount _ rfl, ← h.freed i]
    exact hcount (· == .freed i) rfl
  case links =>
    intro i l' k' hout l k hqueued
    have hold := hdata hout
    rcases hmem hqueued with hqueued | ⟨-, heq⟩
    · exact h.links i l' k' hold l k hqueued
    · cases heq
      exact absurd hold (h.not_mem (congrArg some hid))
  case confirmed =>
    intro i l k hout
    rw [hlog]
    exact mem_append_left _ (h.confirmed i l k (hdata hout))
  case ahead =>
    intro i l k hout q hq hmsg hl hk
    rw [hreqs] at hq
    rcases mem_cons.mp hq with rfl | hq
    · rw [hid]
      exact h.known _ (hdata hout) i rfl
    · exact h.ahead i l k (hdata hout) q hq hmsg hl hk
  case ordered =>
    rw [hlog]
    refine pairwise_append.mpr ⟨h.ordered, ?_, ?_⟩
    · refine pairwise_of_forall_mem_list ?_
      intro x hx y _ i j l k k' hxi
      rw [hxi] at hx
      exact RllOut.noConfusion (honly hx).2
    · intro x _ y hy i j l k k' _ hyj
      rw [hyj] at hy
      exact RllOut.noConfusion (honly hy).2

/-- The message of the request goes to the link of the request, and no other message waits for that. -/
structure Sendable (net : RllNet) (r : BscRllReq) : Prop where
  link : ∀ msgLink, r.msg = some msgLink → sameLink msgLink r.linkId = true
  alone : ∀ q ∈ net.reqs, q.msg.isSome = true → q.lchan = r.lchan → sameLink q.linkId r.linkId = true → q = r

/-- **The completion of a request** whose message can be answered, and sent if the link is confirmed. -/
theorem RllInv.completeRllr (h : RllInv net) (hr : r ∈ net.reqs) (hanswer : answerable net r = true)
    (hsend : ind = .estConf → r.msg.isSome = true → Sendable net r) : RllInv (net.completeRllr r ind) := by
  obtain ⟨hreqs, hnext, tail, hending, hlog⟩ := completeRllr_spec net r ind
  have hmemReq {q : BscRllReq} : q ∈ (net.completeRllr r ind).reqs ↔ q ∈ net.reqs ∧ q.id ≠ r.id := by
    rw [hreqs, mem_filter, decide_eq_true_eq]
  have hids (i : Nat) : i ∈ (net.completeRllr r ind).reqs.map BscRllReq.id ↔
      i ∈ net.reqs.map BscRllReq.id ∧ i ≠ r.id := by
    simp only [List.mem_map, hmemReq]
    constructor
    · rintro ⟨q, ⟨hq, hne⟩, rfl⟩
      exact ⟨⟨q, hq, rfl⟩, hne⟩
    · rintro ⟨⟨q, hq, rfl⟩, hne⟩
      exact ⟨q, ⟨hq, hne⟩, rfl⟩
  have hmem {out : RllOut} (hout : out ∈ (net.completeRllr r ind).outs) :
      out ∈ net.outs ∨ out = .callback r.id ind ∨ out ∈ tail := by
    rw [hlog, mem_append, mem_cons] at hout
    exact hout
  have hqueuedOld {i l : Nat} {k : Octet} (hout : RllOut.queued i l k ∈ (net.completeRllr r ind).outs) :
      RllOut.queued i l k ∈ net.outs := by
    refine (hmem hout).resolve_right ?_
    rintro (heq | htail)
    · cases heq
    · cases hending with
      | other | lost => cases htail
      | sent msgLink => cases mem_singleton.mp htail
      | rejected ind msgLink => simp at htail
  -- the tail of a request with a message, and of one without
  have hcases : r.msg = none ∧ tail = [] ∨ ∃ msgLink, r.msg = some msgLink ∧
      (ind = .estConf ∧ tail = [.data r.id r.lchan msgLink] ∨ tail = [.reject r.id msgLink, .freed r.id]) := by
    cases hending with
    | other ind hmsg => exact .inl ⟨hmsg, rfl⟩
    | lost ind hconn =>
      have hnone : r.msg = none := by
        simpa [answerable, hconn] using hanswer
      exact .inl ⟨hnone, rfl⟩
    | sent msgLink hmsg => exact .inr ⟨msgLink, hmsg, .inl ⟨rfl, rfl⟩⟩
    | rejected ind msgLink hmsg => exact .inr ⟨msgLink, hmsg, .inr rfl⟩
  have hdataCases {i l : Nat} {k : Octet} (hout : data i l k ∈ (net.completeRllr r ind).outs) :
      data i l k ∈ net.outs ∨ i = r.id ∧ l = r.lchan ∧ r.msg = some k ∧ ind = .estConf := by
    rcases hmem hout with hout | heq | htail
    · exact .inl hout
    · cases heq
    · rcases hcases with ⟨-, rfl⟩ | ⟨msgLink, hmsg, ⟨hind, rfl⟩ | rfl⟩
      · cases htail
      · cases mem_singleton.mp htail
        exact .inr ⟨rfl, rfl, hmsg, hind⟩
      · simp at htail
  constructor
  case toRllOnce => exact h.toRllOnce.completeRllr hr ind
  case listed => exact fun q hq l k hout => h.listed q (hmemReq.mp hq).1 l k (hqueuedOld hout)
  case queued =>
    intro q hq hmsg
    rw [hlog]
    exact mem_append_left _ (h.queued q (hmemReq.mp hq).1 hmsg)
  case settled =>
    intro i l k hout
    have hqueued := hqueuedOld hout
    have hold := h.settled i l k hqueued
    rw [hlog, countP_append, countP_append, countP_cons, countP_cons]
    simp only [hids]
    by_cases hi : i = r.id
    · subst hi
      obtain ⟨hsome, -, -⟩ := h.listed r hr l k hqueued
      rw [if_pos (mem_map_of_mem hr)] at hold
      rcases hcases with ⟨hnone, -⟩ | ⟨msgLink, hmsg, ⟨-, rfl⟩ | rfl⟩
      · rw [hnone] at hsome
        cases hsome
      · simp [sends, rejects]
        omega
      · simp [sends, rejects]
        omega
    · rcases hcases with ⟨-, rfl⟩ | ⟨msgLink, -, ⟨-, rfl⟩ | rfl⟩
      · simpa [sends, rejects, hi] using hold
      · simpa [sends, rejects, hi, Ne.symm hi] using hold
      · simpa [sends, rejects, hi, Ne.symm hi] using hold
  case freed =>
    intro i
    have hold := h.freed i
    rw [hlog, count_append, countP_append, count_cons, countP_cons]
    rcases hcases with ⟨-, rfl⟩ | ⟨msgLink, -, ⟨-, rfl⟩ | rfl⟩
    · simpa [rejects] using hold
    · simpa [rejects] using hold
    · simpa [rejects, count_cons, countP_cons] using hold
  case links =>
    intro i l' k' hout l k hqueued
    have hqueued := hqueuedOld hqueued
    rcases hdataCases hout with hout | ⟨rfl, rfl, hmsg, hind⟩
    · exact h.links i l' k' hout l k hqueued
    · obtain ⟨hsome, rfl, rfl⟩ := h.listed r hr l k hqueued
      exact ⟨rfl, (hsend hind hsome).link k' hmsg⟩
  case confirmed =>
    intro i l k hout
    rw [hlog]
    rcases hdataCases hout with hout | ⟨rfl, -, -, rfl⟩
    · exact mem_append_left _ (h.confirmed i l k hout)
    · exact mem_append_right _ mem_cons_self
  case ahead =>
    intro i l k hout q hq hmsg hl hk
    obtain ⟨hq, hne⟩ := hmemReq.mp hq
    rcases hdataCases hout with hout | ⟨rfl, rfl, hmsgLink, hind⟩
    · exact h.ahead i l k hout q hq hmsg hl hk
    · have hsome : r.msg.isSome = true := by rw [hmsgLink]; rfl
      have hsendable := hsend hind hsome
      have hlink := sameLink_iff.mp (hsendable.link k hmsgLink)
      have heq := hsendable.alone q hq hmsg hl (sameLink_iff.mpr ((sameLink_iff.mp hk).trans hlink))
      exact absurd (congrArg BscRllReq.id heq) hne
  case ordered =>
    rw [hlog]
    refine pairwise_append.mpr ⟨h.ordered, ?_, ?_⟩
    · have hnodata {x : RllOut} (hx : x ∈ callback r.id ind :: tail) {i l : Nat} {k : Octet}
          (heq : x = .data i l k) : tail = [.data i l k] := by
        subst heq
        rcases hcases with ⟨-, rfl⟩ | ⟨msgLink, -, ⟨-, rfl⟩ | rfl⟩
        · simp at hx
        · simpa [eq_comm] using hx
        · simp at hx
      refine pairwise_cons.mpr ⟨?_, ?_⟩
      · intro y _ i j l k k' hx
        cases hx
      · rcases hcases with ⟨-, rfl⟩ | ⟨msgLink, -, ⟨-, rfl⟩ | rfl⟩
        · exact .nil
        · exact pairwise_singleton _ _
        · refine pairwise_cons.mpr ⟨?_, pairwise_singleton _ _⟩
          intro y _ i j l k k' hx
          cases hx
    · intro x hx y hy i j l k k' hxi hyj hkk'
      subst hxi hyj
      have hnew : data j l k' ∈ (net.completeRllr r ind).outs := by
        rw [hlog]
        exact mem_append_right _ hy
      rcases hcases with ⟨-, rfl⟩ | ⟨msgLink, hmsg, ⟨hind, rfl⟩ | rfl⟩
      · simp at hy
      · have hy' : data j l k' = .data r.id r.lchan msgLink := by simpa using hy
        cases hy'
        have hsome : r.msg.isSome = true := by rw [hmsg]; rfl
        have hlink := sameLink_iff.mp ((hsend hind hsome).link k' hmsg)
        exact h.ahead i _ k hx r hr hsome rfl
          (sameLink_iff.mpr (hlink.symm.trans (sameLink_iff.mp hkk').symm))
      · simp at hy

theorem RllInv.modifyLchan (h : RllInv net) (l : Nat) (f : RllLchan → RllLchan) : RllInv (net.modifyLchan l f) :=
  h.quiet [] rfl rfl (append_nil _).symm (forall_mem_nil _)

/-- The channel is freed while no message waits for one of its links. -/
theorem RllInv.lchanFreed (h : RllInv net) {l : Nat} (hfree : ∀ r ∈ net.reqs, r.lchan = l → r.msg = none) :
    RllInv (net.lchanFreed l) := by
  have hcomplete (net : RllNet) (r : BscRllReq) (hnone : r.msg = none) (h : RllInv net) (hr : r ∈ net.reqs) :
      RllInv (net.completeRllr r .errInd) := by
    refine h.completeRllr hr ?_ nofun
    rw [answerable, hnone]
    rfl
  refine foldl_completeRllr (Q := fun r => r.msg = none) hcomplete ?_ ?_ ?_ (h.modifyLchan l _)
  · exact h.ids.sublist (filter_sublist.map BscRllReq.id)
  · exact fun r hr => (mem_filter.mp hr).1
  · intro r hr
    obtain ⟨hr, hl⟩ := mem_filter.mp hr
    exact hfree r hr (of_decide_eq_true hl)

theorem of_findReq {l : Nat} {linkId : Octet} (h : net.findReq l linkId = some r) :
    r ∈ net.reqs ∧ r.lchan = l ∧ sameLink r.linkId linkId = true := by
  unfold findReq at h
  exact ⟨mem_of_find?_eq_some h, by simpa using List.find?_some h⟩

theorem RllInv.rllIndication (h : RllInv net) {l : Nat} {linkId : Octet}
    (hkeep : (net.findReq l linkId).all (answerable net) = true) (hind : ind ≠ .estConf) :
    RllInv (net.rllIndication l linkId ind) := by
  unfold RllNet.rllIndication
  cases hfind : net.findReq l linkId with
  | none => exact h
  | some r =>
    rw [hfind] at hkeep
    exact h.completeRllr (of_findReq hfind).1 hkeep fun heq => absurd heq hind

theorem sendable_of_waiting {l : Nat} {linkId : Octet} (hfind : net.findReq l linkId = some r)
    (hlink : ∀ msgLink, r.msg = some msgLink → sameLink msgLink r.linkId = true) (hsome : r.msg.isSome = true)
    (hone : waiting net l linkId = 1) : Sendable net r := by
  obtain ⟨hr, hl, hk⟩ := of_findReq hfind
  refine ⟨hlink, ?_⟩
  intro q hq hmsg hql hqk
  obtain ⟨a, ha⟩ : ∃ a, (net.reqs.filter fun r => r.msg.isSome && r.lchan == l && sameLink r.linkId linkId) = [a] := by
    refine length_eq_one_iff.mp ?_
    rw [← countP_eq_length_filter]
    exact hone
  have hkq : sameLink q.linkId linkId = true := sameLink_iff.mpr ((sameLink_iff.mp hqk).trans (sameLink_iff.mp hk))
  have hra : r ∈ [a] := by
    rw [← ha]
    refine mem_filter.mpr ⟨hr, ?_⟩
    simp [hsome, hl, hk]
  have hqa : q ∈ [a] := by
    rw [← ha]
    refine mem_filter.mpr ⟨hq, ?_⟩
    simp [hmsg, hql, hl, hkq]
  exact (mem_singleton.mp hqa).trans (mem_singleton.mp hra).symm

/-- The connection of a channel does not change with its links. -/
theorem connOf_setSapi (net : RllNet) (l i : Nat) (linkId : Octet) (sapi : LchanSapi) :
    (net.setSapi l linkId sapi).connOf i = net.connOf i := by
  show ((net.lchans.modify l _)[i]?).bind RllLchan.conn = _
  rw [List.getElem?_modify]
  show (Option.map _ net.lchans[i]?).bind RllLchan.conn = net.lchans[i]?.bind RllLchan.conn
  cases net.lchans[i]? with
  | none => rfl
  | some lchan =>
    show (if l = i then _ else lchan).conn = lchan.conn
    split
    · rfl
    · rfl

theorem answerable_setSapi (net : RllNet) (l : Nat) (linkId : Octet) (sapi : LchanSapi) :
    answerable (net.setSapi l linkId sapi) = answerable net := by
  funext r
  unfold answerable
  rw [connOf_setSapi]

/-- **The step, for the messages.** -/
theorem RllInv.step (h : RllInv net) {ev : RllEvent} (hkeep : keepsMessages net ev = true)
    (hstep : net.step ev = some net') : RllInv net' := by
  cases ev with
  | setConn l c? =>
    cases hstep
    exact h.modifyLchan l _
  | setLchan c l? =>
    cases hstep
    exact h.quiet [] rfl rfl (append_nil _).symm (forall_mem_nil _)
  | alloc l type =>
    cases hstep
    exact h.modifyLchan l _
  | freed l =>
    cases hstep
    refine h.lchanFreed ?_
    intro r hr hl
    simpa [hl] using all_eq_true.mp hkeep r hr
  | submit c linkId allowSach sent =>
    cases hstep
    rcases gsm0808SubmitDtap_cases net c linkId allowSach sent with
      heq | ⟨l, msgLink, heq⟩ | ⟨hwaits, r, msgLink, outs, hid, hmsg, hreqs, hnext, hlog, houts⟩
    · rw [heq]
      exact h
    · rw [heq]
      exact h.quiet [.direct l msgLink] rfl rfl rfl (by simp [id?])
    · rcases houts with ⟨-, rfl⟩ | ⟨hsent, -⟩
      · exact h.add _ _ hid hreqs hnext hlog (.inr ⟨by rw [hmsg]; rfl, rfl⟩)
      · simp [keepsMessages, hsent, hwaits] at hkeep
  | establish l sapi =>
    obtain ⟨lchan, -, rfl⟩ := map_eq_some_iff.mp hstep
    exact h.add ⟨net.next, l, rllLinkId lchan sapi, none⟩ [] rfl rfl rfl (append_nil _).symm
      (.inl ⟨rfl, rfl⟩)
  | estInd l linkId =>
    cases hstep
    exact h.modifyLchan l _
  | estConf l linkId =>
    cases hstep
    have hup : RllInv (net.setSapi l linkId .net) := h.modifyLchan l _
    unfold RllNet.rllIndication
    cases hfind : (net.setSapi l linkId .net).findReq l linkId with
    | none => exact hup
    | some r =>
      have hfound : net.findReq l linkId = some r := hfind
      simp only [keepsMessages, hfound, all_some, Bool.and_eq_true] at hkeep
      refine hup.completeRllr (of_findReq hfind).1 ?_ ?_
      · rw [answerable_setSapi]
        exact hkeep.1
      · intro _ hsome
        obtain ⟨msgLink, hmsg⟩ := isSome_iff_exists.mp hsome
        simp only [hmsg, all_some, Bool.and_eq_true, beq_iff_eq] at hkeep
        refine sendable_of_waiting hfind ?_ hsome hkeep.2.2
        intro msgLink' hmsg'
        cases hmsg.symm.trans hmsg'
        exact hkeep.2.1
  | relInd l linkId =>
    cases hstep
    have hdown : RllInv (net.setSapi l linkId .unused) := h.modifyLchan l _
    refine hdown.rllIndication ?_ nofun
    rw [answerable_setSapi]
    exact hkeep
  | relConf l linkId =>
    cases hstep
    exact h.modifyLchan l _
  | errInd l linkId =>
    cases hstep
    exact h.rllIndication hkeep nofun
  | timeout id =>
    obtain ⟨r, hr, rfl⟩ := map_eq_some_iff.mp hstep
    simp only [keepsMessages, hr, all_some] at hkeep
    exact h.completeRllr (mem_of_find?_eq_some hr) hkeep nofun

/-! ## The result -/

/-- What is expected of the requests and of the messages that wait for a link. -/
structure MessagesKept (net : RllNet) : Prop where
  called : ∀ i < net.next, net.outs.countP (RllOut.calls i) + (if i ∈ net.reqs.map BscRllReq.id then 1 else 0) = 1
  settled : ∀ i l k, RllOut.queued i l k ∈ net.outs →
    net.outs.countP (RllOut.sends i) + net.outs.countP (RllOut.rejects i) +
      (if i ∈ net.reqs.map BscRllReq.id then 1 else 0) = 1
  freed : ∀ i, net.outs.count (.freed i) = net.outs.countP (RllOut.rejects i)
  links : ∀ i l' k', RllOut.data i l' k' ∈ net.outs → RllOut.callback i .estConf ∈ net.outs ∧
    ∀ l k, RllOut.queued i l k ∈ net.outs → l' = l ∧ sameLink k' k = true
  ordered : net.outs.Pairwise fun x y => ∀ i j l k k', x = .data i l k → y = .data j l k' → sameLink k k' = true → i < j

theorem rllOnce_init (lchans : List RllLchan) : RllOnce { lchans := lchans } where
  ids := nodup_nil
  fresh _ hr := absurd hr not_mem_nil
  known _ hout := absurd hout not_mem_nil
  called _ hi := absurd hi (Nat.not_lt_zero _)

/-- The callback of each request is invoked once, in every run. -/
theorem rllOnce_of_reachable (h : Reachable rllSystem net) : RllOnce net := by
  refine h.invariant ?_ fun _ _ _ honce _ hstep => honce.step hstep
  rintro _ ⟨lchans, rfl⟩
  exact rllOnce_init lchans

theorem rllInv_init (lchans : List RllLchan) : RllInv { lchans := lchans } where
  toRllOnce := rllOnce_init lchans
  listed _ hr := absurd hr not_mem_nil
  queued _ hr := absurd hr not_mem_nil
  settled _ _ _ hout := absurd hout not_mem_nil
  freed _ := rfl
  links _ _ _ hout := absurd hout not_mem_nil
  confirmed _ _ _ hout := absurd hout not_mem_nil
  ahead _ _ _ hout := absurd hout not_mem_nil
  ordered := .nil

/-- **No message is lost.** In a run whose steps keep the messages, each request is completed once, and each message
    that waits for a link is sent once on it after it is confirmed, in its order, or rejected and freed. -/
theorem messagesKept_of_keeping (h : ReachableBy rllSystem (fun net ev => keepsMessages net ev = true) net) :
    MessagesKept net := by
  have hinv : RllInv net := by
    refine h.invariant ?_ fun _ _ _ hinv hkeep hstep => hinv.step hkeep hstep
    rintro _ ⟨lchans, rfl⟩
    exact rllInv_init lchans
  exact ⟨hinv.called, hinv.settled, hinv.freed,
    fun i l' k' hout => ⟨hinv.confirmed i l' k' hout, hinv.links i l' k' hout⟩, hinv.ordered⟩

/-- An SDCCH, and a connection on it. -/
def sdcchConn : List RllEvent := [.alloc 0 .sdcch, .setConn 0 (some 0), .setLchan 0 (some 0)]

/-- One message is sent when its link is confirmed; the next one waits again after a release, and is rejected. -/
def sentAndRejected : List RllEvent :=
  sdcchConn ++ [.submit 0 3 true true, .estConf 0 3, .submit 0 3 true true, .relInd 0 3,
    .submit 0 3 true true, .timeout 1]

theorem rllOnce_sentAndRejected :
    ∃ net, guardedRun step (fun _ _ => True) { lchans := [{}] } sentAndRejected = some net ∧ RllOnce net := by
  obtain ⟨net, hnet⟩ : ∃ net, guardedRun step (fun _ _ => True) { lchans := [{}] } sentAndRejected = some net :=
    isSome_iff_exists.mp (by decide +kernel)
  exact ⟨net, hnet, rllOnce_of_reachable (guardedRun (fun _ _ _ h => h) (.init ⟨_, rfl⟩) hnet)⟩

theorem messagesKept_sentAndRejected :
    ∃ net, guardedRun step (fun net ev => keepsMessages net ev = true) { lchans := [{}] } sentAndRejected =
      some net ∧ MessagesKept net := by
  obtain ⟨net, hnet⟩ : ∃ net, guardedRun step (fun net ev => keepsMessages net ev = true) { lchans := [{}] }
      sentAndRejected = some net :=
    isSome_iff_exists.mp (by decide +kernel)
  exact ⟨net, hnet, messagesKept_of_keeping (guardedRun (fun _ _ _ h => h) (.init ⟨_, rfl⟩) hnet)⟩

/-- Two messages wait for one link and are sent in the wrong order; a message waits on a channel that is freed, and is
    neither sent nor rejected; the request cannot be sent, and the message is rejected and freed twice. -/
theorem messages_not_kept :
    (∃ net, Reachable rllSystem net ∧ [data 1 0 3, data 0 0 3].Sublist net.outs ∧ ¬ MessagesKept net) ∧
      (∃ net, Reachable rllSystem net ∧ queued 0 0 3 ∈ net.outs ∧ net.reqs = [] ∧
        net.outs.countP (sends 0) = 0 ∧ net.outs.countP (rejects 0) = 0 ∧ ¬ MessagesKept net) ∧
      ∃ net, Reachable rllSystem net ∧ net.outs.count (.freed 0) = 2 ∧ ¬ MessagesKept net := by
  have hinit : Reachable rllSystem { lchans := [{}] } := .init ⟨_, rfl⟩
  refine ⟨?_, ?_, ?_⟩
  · obtain ⟨net, hnet, hout⟩ : ∃ net ∈ guardedRun step (fun _ _ => True) { lchans := [{}] }
        (sdcchConn ++ [.submit 0 3 true true, .submit 0 3 true true, .estConf 0 3, .estConf 0 3]),
        [data 1 0 3, data 0 0 3].Sublist net.outs := by
      decide +kernel
    refine ⟨net, guardedRun (fun _ _ _ h => h) hinit hnet, hout, fun hkept => ?_⟩
    have hsent := rel_of_pairwise_cons (hkept.ordered.sublist hout) (mem_singleton_self _)
    exact absurd (hsent 1 0 0 3 3 rfl rfl (by decide)) (by decide)
  · obtain ⟨net, hnet, hqueued, hreqs, hsends, hrejects⟩ : ∃ net ∈ guardedRun step (fun _ _ => True) { lchans := [{}] }
        (sdcchConn ++ [.submit 0 3 true true, .freed 0]),
        queued 0 0 3 ∈ net.outs ∧ net.reqs = [] ∧ net.outs.countP (sends 0) = 0 ∧ net.outs.countP (rejects 0) = 0 := by
      decide +kernel
    refine ⟨net, guardedRun (fun _ _ _ h => h) hinit hnet, hqueued, hreqs, hsends, hrejects, fun hkept => ?_⟩
    have hsettled := hkept.settled 0 0 3 hqueued
    rw [hsends, hrejects, hreqs] at hsettled
    exact absurd hsettled (by decide)
  · obtain ⟨net, hnet, hfreed, hqueued, hrejects⟩ : ∃ net ∈ guardedRun step (fun _ _ => True) { lchans := [{}] }
        (sdcchConn ++ [.submit 0 3 true false, .timeout 0]), net.outs.count (.freed 0) = 2 ∧
          queued 0 0 3 ∈ net.outs ∧ net.outs.countP (rejects 0) = 2 := by
      decide +kernel
    refine ⟨net, guardedRun (fun _ _ _ h => h) hinit hnet, hfreed, fun hkept => ?_⟩
    have hsettled := hkept.settled 0 0 3 hqueued
    omega

end OpenBsc.Libbsc

import OpenBsc.Libmsc.CallControl
import OpenBsc.Libmsc.MscNet

/-!
# `Libmsc.SapiReject` — the link for short messages is refused (`gsm_04_11.c`)

The transactions of calls and of short messages are on one list, and their own parts lie in one union. When a phone
refuses the link for short messages, `gsm411_sapi_n_reject` goes through the list and ends the transactions of the
connection. It asks each for its short message, whatever protocol it is of.

Transactions that go may release the connection, and then the next in the queue of the subscriber is served; so it is
once more at the end. If the subscriber cannot be paged then, the callback of the request is told, and a call that
waited for the paging is freed.
-/

namespace OpenBsc.Libmsc

open Pool List

/-! ## Data -/

/-- The union of `struct gsm_trans`. The pointer `sms.sms` of a short message lies in the stored message of a call, in
    the word that says which elements the message has; so for a call `sms` is what stands in that word. -/
structure TransUnion where
  cc : CcBody := {}
  sms : Option Nat := none

/-- `trans->sms.sms = NULL`. -/
def TransUnion.clearSms (body : TransUnion) : TransUnion where
  cc := { body.cc with msg := { body.cc.msg with cause := none } }
  sms := none

abbrev UnionTrans := GsmTrans TransUnion

/-- `struct gsm_subscriber_connection`, as far as its release looks at it. -/
structure SapiConn where
  subscr : Option Nat
  locOperation : Bool := false
  secOperation : Bool := false
  anchOperation : Bool := false
  silentCall : Bool := false
  inRelease : Bool := false
  putChannel : Bool := false

/-- Nothing but transactions holds the connection. -/
def SapiConn.unheld (conn : SapiConn) : Bool :=
  !conn.inRelease && !conn.silentCall && !(conn.locOperation || conn.secOperation || conn.anchOperation)

/-- What `paging.c` does: `paging_request` for a subscriber, with whether a BTS pages it, and `paging_request_stop`. -/
structure PagingOps (ρ : Type) where
  request : ρ → Nat → ρ × Bool
  stop : ρ → Nat → ρ

/-- The network: the transactions, the connections, the requests for a channel of each subscriber, and the paging. -/
structure SapiNet (ρ : Type) where
  transList : Pool UnionTrans := .empty
  conns : Pool SapiConn := .empty
  requests : Nat → List ChanCallback := fun _ => []
  paging : ρ

/-- What is done to a transaction: a field of short messages is read, a field is written, it is freed. -/
inductive TransTouch where
  | readSms (trans : Nat)
  | modified (trans : Nat)
  | freed (trans : Nat)

/-- The transaction it is done to. -/
def TransTouch.trans : TransTouch → Nat
  | .readSms trans => trans
  | .modified trans => trans
  | .freed trans => trans

variable {ρ : Type}

/-! ## The source -/

namespace SapiNet

section

-- The application for calls is told of a release, and may do something about the calls before it returns.
variable (ops : PagingOps ρ) (app : Pool UnionTrans → Pool UnionTrans)

def modifyTrans (net : SapiNet ρ) (t : Nat) (f : UnionTrans → UnionTrans) : SapiNet ρ :=
  { net with transList := net.transList.modify t f }

/-- `_gsm48_cc_trans_free`. -/
def gsm48CcTransFree (net : SapiNet ρ) (t : Nat) (u : UnionTrans) : SapiNet ρ × List TransTouch :=
  let net := modifyTrans net t fun u => { u with body.cc.timer := none }
  let net := if u.callref ≠ 0 then { net with transList := app net.transList } else net
  (modifyTrans net t fun u => { u with body.cc.state := .null }, [.modified t])

/-- `_gsm411_sms_trans_free`. -/
def gsm411SmsTransFree (net : SapiNet ρ) (t : Nat) (u : UnionTrans) : SapiNet ρ × List TransTouch :=
  if u.body.sms.isSome then (modifyTrans net t fun u => { u with body := u.body.clearSms }, [.readSms t, .modified t])
  else (net, [.readSms t, .modified t])

/-- `trans_free`, up to the connection. -/
def transDrop (net : SapiNet ρ) (t : Nat) : SapiNet ρ × List TransTouch :=
  match net.transList.get? t with
  | none => (net, [])
  | some u =>
    let (net, touches) := match u.protocol with
      | .cc => gsm48CcTransFree app net t u
      | .sms => gsm411SmsTransFree net t u
    ({ net with transList := net.transList.remove t }, touches ++ [.freed t])

/-- The transaction has no connection, and the paging request that it was made for is its own. -/
def waiting (transList : Pool UnionTrans) (t : Nat) : Bool :=
  (transList.get? t).any fun u => u.pagingRequest && u.conn.isNone

/-- The callback of a request that has failed: `setup_trig_pag_evt` or `paging_cb_send_sms`. -/
def pagingFailed (net : SapiNet ρ) : ChanCallback → SapiNet ρ × List TransTouch
  | .sendSms => (net, [])
  | .setupTrigPagEvt t =>
    if waiting net.transList t then
      let net := { net with transList := app net.transList }
      let net := modifyTrans net t fun u => { u with callref := 0, pagingRequest := false }
      let (net, touches) := transDrop app net t
      (net, .modified t :: touches)
    else (net, [])

/-- The first request of a subscriber is taken off. -/
def dequeued (net : SapiNet ρ) (i : Nat) (rest : List ChanCallback) : SapiNet ρ :=
  { net with requests := fun k => if k = i then rest else net.requests k }

/-- `subscr_put_channel`, with `subscr_send_paging_request` and `subscr_paging_dispatch` for the requests that fail at
    once. -/
def subscrPutChannel (i : Nat) : List ChanCallback → SapiNet ρ → SapiNet ρ × List TransTouch
  | [], net => (net, [])
  | cbfn :: rest, net =>
    let (paging, pages) := ops.request net.paging i
    if pages then ({ net with paging := paging }, [])
    else
      let (net, touches) := pagingFailed app (dequeued { net with paging := paging } i rest) cbfn
      let (net, more) := subscrPutChannel i rest { net with paging := ops.stop net.paging i }
      (net, touches ++ more)

/-- A transaction is on the connection. -/
def hasTrans (net : SapiNet ρ) (c : Nat) : Bool := net.transList.entries.any fun e => e.2.conn == some c

/-- `msc_release_connection`. -/
def mscReleaseConnection (net : SapiNet ρ) (c : Nat) : SapiNet ρ × List TransTouch :=
  match net.conns.get? c with
  | none => (net, [])
  | some conn =>
    if conn.unheld && !hasTrans net c then
      let net := { net with conns := net.conns.modify c fun conn => { conn with inRelease := true } }
      match conn.putChannel, conn.subscr with
      | true, some i =>
        let net := { net with conns := net.conns.modify c fun conn => { conn with putChannel := false } }
        let (net, touches) := subscrPutChannel ops app i (net.requests i) net
        ({ net with conns := net.conns.remove c }, touches)
      | _, _ => ({ net with conns := net.conns.remove c }, [])
    else (net, [])

/-- `trans_free`. -/
def transFree (net : SapiNet ρ) (t : Nat) : SapiNet ρ × List TransTouch :=
  match net.transList.get? t with
  | none => (net, [])
  | some u =>
    let (net, touches) := transDrop app net t
    match u.conn with
    | none => (net, touches)
    | some c =>
      let (net, more) := mscReleaseConnection ops app net c
      (net, touches ++ more)

/-- The loop of `gsm411_sapi_n_reject`: one transaction of the list. -/
def sapiTrans (c : Nat) (net : SapiNet ρ) (t : Nat) : SapiNet ρ × List TransTouch :=
  match net.transList.get? t with
  | none => (net, [])
  | some u =>
    if u.conn = some c then
      match u.body.sms with
      | none => (net, [.readSms t])
      | some _ =>
        let net := modifyTrans net t fun u => { u with body := u.body.clearSms }
        let (net, touches) := transFree ops app net t
        (net, .readSms t :: .modified t :: touches)
    else (net, [])

/-- The loop. -/
def sapiLoop (c : Nat) : List Nat → SapiNet ρ → SapiNet ρ × List TransTouch
  | [], net => (net, [])
  | t :: ts, net =>
    let (net, touches) := sapiTrans ops app c net t
    let (net, more) := sapiLoop c ts net
    (net, touches ++ more)

/-- `gsm411_sapi_n_reject`. Without a subscriber of the connection it does not get as far as the list. -/
def gsm411SapiNReject (net : SapiNet ρ) (c : Nat) : SapiNet ρ × List TransTouch :=
  match (net.conns.get? c).bind SapiConn.subscr with
  | none => (net, [])
  | some i =>
    let (net, touches) := sapiLoop ops app c net.transList.ids net
    let (net, more) := subscrPutChannel ops app i (net.requests i) net
    (net, touches ++ more)

end

/-! ## The queue -/

/-- What the queue of a subscriber comes to when it is served: the requests that fail at once, those that are left, and
    the paging. -/
def kick (ops : PagingOps ρ) (i : Nat) : ρ → List ChanCallback → List ChanCallback × List ChanCallback × ρ
  | paging, [] => ([], [], paging)
  | paging, cbfn :: rest =>
    if (ops.request paging i).2 then ([], cbfn :: rest, (ops.request paging i).1)
    else
      let after := kick ops i (ops.stop (ops.request paging i).1 i) rest
      (cbfn :: after.1, after.2)

/-- One of the requests is that of a call that waits for it. -/
def CallWaits (transList : Pool UnionTrans) (failed : List ChanCallback) : Prop :=
  ∃ t, .setupTrigPagEvt t ∈ failed ∧ waiting transList t = true

variable {ops : PagingOps ρ} {app : Pool UnionTrans → Pool UnionTrans}

variable {net : SapiNet ρ}

/-- The callback of a request without a waiting call touches nothing. -/
theorem pagingFailed_quiet {cbfn : ChanCallback}
    (h : ∀ t, cbfn = .setupTrigPagEvt t → waiting net.transList t = false) :
    pagingFailed app net cbfn = (net, []) := by
  cases cbfn with
  | sendSms => rfl
  | setupTrigPagEvt t =>
    rw [pagingFailed, if_neg]
    rw [h t rfl]
    exact Bool.false_ne_true

theorem pagingFailed_loud {t : Nat} (h : waiting net.transList t = true) :
    .modified t ∈ (pagingFailed app net (.setupTrigPagEvt t)).2 := by
  rw [pagingFailed, if_pos h]
  exact mem_cons_self

variable (cbfn : ChanCallback) (rest : List ChanCallback)

theorem subscrPutChannel_pages {i : Nat}
    (hpages : (ops.request net.paging i).2 = true) :
    subscrPutChannel ops app i (cbfn :: rest) net = ({ net with paging := (ops.request net.paging i).1 }, []) := by
  unfold subscrPutChannel
  exact if_pos hpages

/-- One that fails without a waiting call is taken off, and the next is served. -/
theorem subscrPutChannel_fails {i : Nat} {cbfn : ChanCallback}
    (hpages : ¬ (ops.request net.paging i).2 = true)
    (hquiet : ∀ t, cbfn = .setupTrigPagEvt t → waiting net.transList t = false) :
    subscrPutChannel ops app i (cbfn :: rest) net =
      subscrPutChannel ops app i rest
        (dequeued { net with paging := ops.stop (ops.request net.paging i).1 i } i rest) := by
  have hfailed : pagingFailed app (dequeued { net with paging := (ops.request net.paging i).1 } i rest) cbfn =
      (dequeued { net with paging := (ops.request net.paging i).1 } i rest, []) := pagingFailed_quiet hquiet
  rw [subscrPutChannel]
  simp only [if_neg hpages, hfailed]
  rfl

theorem kick_pages {paging : ρ} {i : Nat}
    (hpages : (ops.request paging i).2 = true) :
    kick ops i paging (cbfn :: rest) = ([], cbfn :: rest, (ops.request paging i).1) := by
  rw [kick, if_pos hpages]

theorem kick_fails {paging : ρ} {i : Nat}
    (hpages : ¬ (ops.request paging i).2 = true) :
    kick ops i paging (cbfn :: rest) =
      (cbfn :: (kick ops i (ops.stop (ops.request paging i).1 i) rest).1,
        (kick ops i (ops.stop (ops.request paging i).1 i) rest).2) := by
  rw [kick, if_neg hpages]

/-- **If no waiting call fails, no transaction is touched.** -/
theorem putChannel_quiet (ops : PagingOps ρ) (app : Pool UnionTrans → Pool UnionTrans) (i : Nat)
    (rs : List ChanCallback)
    (net : SapiNet ρ) (hrs : net.requests i = rs)
    (h : ¬ CallWaits net.transList (kick ops i net.paging rs).1) :
    (subscrPutChannel ops app i rs net).2 = [] ∧ (subscrPutChannel ops app i rs net).1.transList = net.transList ∧
      (subscrPutChannel ops app i rs net).1.requests i = (kick ops i net.paging rs).2.1 ∧
      (subscrPutChannel ops app i rs net).1.paging = (kick ops i net.paging rs).2.2 := by
  induction rs generalizing net with
  | nil => exact ⟨rfl, rfl, hrs, rfl⟩
  | cons cbfn rest ih =>
    by_cases hpages : (ops.request net.paging i).2 = true
    · rw [subscrPutChannel_pages cbfn rest hpages, kick_pages cbfn rest hpages]
      exact ⟨rfl, rfl, hrs, rfl⟩
    · rw [kick_fails cbfn rest hpages] at h ⊢
      have hquiet : ∀ t, cbfn = .setupTrigPagEvt t → waiting net.transList t = false := by
        intro t ht
        refine Bool.eq_false_iff.mpr fun hwaits => h ⟨t, ?_, hwaits⟩
        exact ht ▸ mem_cons_self
      rw [subscrPutChannel_fails rest hpages hquiet]
      exact ih _ (if_pos rfl) fun ⟨t, ht, hwaits⟩ => h ⟨t, mem_cons_of_mem _ ht, hwaits⟩

/-- **If a waiting call fails, a waiting call is touched.** -/
theorem putChannel_loud (ops : PagingOps ρ) (app : Pool UnionTrans → Pool UnionTrans) (i : Nat) (rs : List ChanCallback)
    (net : SapiNet ρ)
    (h : CallWaits net.transList (kick ops i net.paging rs).1) :
    ∃ touch ∈ (subscrPutChannel ops app i rs net).2, waiting net.transList touch.trans = true := by
  induction rs generalizing net with
  | nil =>
    obtain ⟨t, ht, _⟩ := h
    exact absurd ht not_mem_nil
  | cons cbfn rest ih =>
    by_cases hpages : (ops.request net.paging i).2 = true
    · obtain ⟨t, ht, _⟩ := h
      rw [kick_pages cbfn rest hpages] at ht
      exact absurd ht not_mem_nil
    · rw [kick_fails cbfn rest hpages] at h
      by_cases hfirst : ∃ t, cbfn = .setupTrigPagEvt t ∧ waiting net.transList t = true
      · obtain ⟨t, rfl, hwaits⟩ := hfirst
        refine ⟨.modified t, ?_, hwaits⟩
        rw [subscrPutChannel]
        simp only [if_neg hpages]
        exact mem_append_left _ (pagingFailed_loud hwaits)
      · have hquiet : ∀ t, cbfn = .setupTrigPagEvt t → waiting net.transList t = false :=
          fun t ht => Bool.eq_false_iff.mpr fun hwaits => hfirst ⟨t, ht, hwaits⟩
        rw [subscrPutChannel_fails rest hpages hquiet]
        refine ih _ ?_
        obtain ⟨t, ht, hwaits⟩ := h
        rcases mem_cons.mp ht with rfl | ht
        · exact absurd ⟨t, rfl, hwaits⟩ hfirst
        · exact ⟨t, ht, hwaits⟩

/-! ## The loop -/

/-- A transaction of the connection. -/
def On (net : SapiNet ρ) (c t : Nat) (u : UnionTrans) : Prop := net.transList.get? t = some u ∧ u.conn = some c

/-- The transactions of the connection are all of short messages. -/
def OnlySms (net : SapiNet ρ) (c : Nat) : Prop := ∀ t u, On net c t u → u.protocol = .sms

/-- All transactions of the connection are in the list, and have a short message; and there is one. -/
structure Releases (net : SapiNet ρ) (c : Nat) (ts : List Nat) : Prop where
  some : ∃ t u, On net c t u
  all : ∀ t u, On net c t u → t ∈ ts ∧ u.body.sms.isSome = true

def removed (net : SapiNet ρ) (t : Nat) : SapiNet ρ := { net with transList := net.transList.remove t }

variable {net : SapiNet ρ} {c t : Nat} {u : UnionTrans}

theorem on_removed {t' : Nat} {u' : UnionTrans} : On (removed net t) c t' u' ↔ t' ≠ t ∧ On net c t' u' := by
  unfold On removed
  rw [get?_remove]
  by_cases h : t' = t
  · simp [h]
  · simp [h]

/-- A transaction without a connection waits as before when one of a connection is gone. -/
theorem waiting_removed (hon : On net c t u) (t' : Nat) :
    waiting (net.transList.remove t) t' = waiting net.transList t' := by
  unfold waiting
  rw [get?_remove]
  by_cases h : t' = t
  · subst h
    rw [if_pos rfl, hon.1]
    simp [hon.2]
  · rw [if_neg h]

theorem hasTrans_iff : hasTrans net c = true ↔ ∃ t u, On net c t u := by
  unfold hasTrans On
  rw [any_eq_true]
  constructor
  · rintro ⟨e, he, hconn⟩
    exact ⟨e.1, e.2, get?_eq_some.mpr he, by simpa using hconn⟩
  · rintro ⟨t, u, hget, hconn⟩
    exact ⟨(t, u), get?_eq_some.mp hget, by simpa using hconn⟩

/-- A transaction that is not of the connection is passed over. -/
theorem sapiTrans_other (h : ∀ u, ¬ On net c t u) : sapiTrans ops app c net t = (net, []) := by
  unfold sapiTrans
  cases hget : net.transList.get? t with
  | none => rfl
  | some u => exact if_neg fun hconn => h u ⟨hget, hconn⟩

/-- One without a short message is left as it is. -/
theorem sapiTrans_noSms (hon : On net c t u) (hsms : u.body.sms = none) :
    sapiTrans ops app c net t = (net, [.readSms t]) := by
  unfold sapiTrans
  rw [hon.1]
  dsimp only
  rw [if_pos hon.2, hsms]

/-- Of whatever protocol it is, it is asked for its short message. -/
theorem sapiTrans_reads (hon : On net c t u) : .readSms t ∈ (sapiTrans ops app c net t).2 := by
  unfold sapiTrans
  rw [hon.1]
  dsimp only
  rw [if_pos hon.2]
  cases u.body.sms with
  | none => exact mem_singleton_self _
  | some sms => exact mem_cons_self

/-- One with a short message is freed, and the connection is released if it was the last. -/
theorem sapiTrans_sms (hon : On net c t u) (hproto : u.protocol = .sms) (hsms : u.body.sms.isSome = true) :
    ∃ touches, (∀ touch ∈ touches, TransTouch.trans touch = t) ∧ sapiTrans ops app c net t =
      ((mscReleaseConnection ops app (removed net t) c).1,
        touches ++ (mscReleaseConnection ops app (removed net t) c).2) := by
  obtain ⟨sms, hsms⟩ := Option.isSome_iff_exists.mp hsms
  refine ⟨[.readSms t, .modified t, .readSms t, .modified t, .freed t], by simp [TransTouch.trans], ?_⟩
  have hcleared : (modifyTrans net t fun u => { u with body := u.body.clearSms }).transList.get? t =
      some { u with body := u.body.clearSms } := get?_modify_self hon.1
  have hgone : (modifyTrans net t fun u => { u with body := u.body.clearSms }).transList.remove t =
      net.transList.remove t := remove_modify ..
  have hdrop : transDrop app (modifyTrans net t fun u => { u with body := u.body.clearSms }) t =
      (removed net t, [.readSms t, .modified t, .freed t]) := by
    unfold transDrop
    rw [hcleared]
    simp only [hproto]
    unfold gsm411SmsTransFree
    rw [if_neg (by simp [TransUnion.clearSms])]
    simp only [hgone]
    rfl
  have hfree : transFree ops app (modifyTrans net t fun u => { u with body := u.body.clearSms }) t =
      ((mscReleaseConnection ops app (removed net t) c).1,
        [.readSms t, .modified t, .freed t] ++ (mscReleaseConnection ops app (removed net t) c).2) := by
    unfold transFree
    rw [hcleared]
    simp only [hdrop, hon.2]
  unfold sapiTrans
  rw [hon.1]
  dsimp only
  rw [if_pos hon.2, hsms]
  simp only [hfree]
  rfl

theorem mscReleaseConnection_held (h : ∃ t u, On net c t u) : mscReleaseConnection ops app net c = (net, []) := by
  unfold mscReleaseConnection
  cases net.conns.get? c with
  | none => rfl
  | some conn =>
    have hhas := hasTrans_iff.mpr h
    simp [hhas]

/-- A call among the transactions of the connection is asked for its short message. -/
theorem sapiLoop_reads (ts : List Nat) (net : SapiNet ρ) (hcall : ∃ t ∈ ts, ∃ u, On net c t u ∧ u.protocol ≠ .sms) :
    ∃ touch ∈ (sapiLoop ops app c ts net).2, ∃ u, net.transList.get? touch.trans = some u ∧ u.protocol ≠ .sms := by
  induction ts generalizing net with
  | nil =>
    obtain ⟨t, ht, _⟩ := hcall
    exact absurd ht not_mem_nil
  | cons t ts ih =>
    by_cases hfirst : ∃ u, On net c t u ∧ u.protocol ≠ .sms
    · obtain ⟨u, hon, hproto⟩ := hfirst
      exact ⟨.readSms t, mem_append_left _ (sapiTrans_reads hon), u, hon.1, hproto⟩
    · have hlater : ∃ t' ∈ ts, ∃ u, On net c t' u ∧ u.protocol ≠ .sms := by
        obtain ⟨t', ht', u, hu⟩ := hcall
        rcases mem_cons.mp ht' with rfl | ht'
        · exact absurd ⟨u, hu⟩ hfirst
        · exact ⟨t', ht', u, hu⟩
      by_cases hfreed : ∃ u, On net c t u ∧ u.body.sms.isSome = true
      · obtain ⟨u, hon, hsms⟩ := hfreed
        have hproto : u.protocol = .sms := by
          by_contra hne
          exact hfirst ⟨u, hon, hne⟩
        obtain ⟨t', ht', u', hon', hcall'⟩ := hlater
        have hne : t' ≠ t := by
          rintro rfl
          exact hfirst ⟨u', hon', hcall'⟩
        have hstays : On (removed net t) c t' u' := on_removed.mpr ⟨hne, hon'⟩
        obtain ⟨touches, _, hstep⟩ := sapiTrans_sms hon hproto hsms
        rw [mscReleaseConnection_held ⟨t', u', hstays⟩] at hstep
        obtain ⟨touch, htouch, v, hv, hvcall⟩ := ih (removed net t) ⟨t', ht', u', hstays, hcall'⟩
        refine ⟨touch, ?_, v, (get?_of_remove hv).2, hvcall⟩
        rw [sapiLoop, hstep]
        exact mem_append_right _ htouch
      · have hsame : (sapiTrans ops app c net t).1 = net := by
          by_cases hon : ∃ u, On net c t u
          · obtain ⟨u, hon⟩ := hon
            have hsms : u.body.sms = none := by
              rw [← Option.not_isSome_iff_eq_none]
              exact fun hsms => hfreed ⟨u, hon, hsms⟩
            rw [sapiTrans_noSms hon hsms]
          · rw [sapiTrans_other fun u hu => hon ⟨u, hu⟩]
        obtain ⟨touch, htouch, hv⟩ := ih net hlater
        refine ⟨touch, ?_, hv⟩
        rw [sapiLoop]
        refine mem_append_right _ ?_
        simp only [hsame]
        exact htouch

/-! ### The release of the connection -/

variable {conn : SapiConn} {i : Nat}

/-- The queue is served when the connection is released, if it was given to a requester. -/
def Served (conn : SapiConn) : Prop := conn.unheld = true ∧ conn.putChannel = true

section

variable (hconn : net.conns.get? c = some conn) (hi : conn.subscr = some i) (hnone : ¬ ∃ t u, On net c t u)

include hconn hi hnone

/-- What becomes of a connection without transactions, while its subscriber's queue is served. -/
theorem mscReleaseConnection_served (hserved : Served conn) :
    ∃ net', net'.transList = net.transList ∧ net'.requests = net.requests ∧ net'.paging = net.paging ∧
      mscReleaseConnection ops app net c =
        ({ (subscrPutChannel ops app i (net.requests i) net').1 with
            conns := (subscrPutChannel ops app i (net.requests i) net').1.conns.remove c },
          (subscrPutChannel ops app i (net.requests i) net').2) := by
  have hhas : hasTrans net c = false := by
    rw [← Bool.not_eq_true, hasTrans_iff]
    exact hnone
  refine ⟨{ net with conns := (net.conns.modify c fun conn => { conn with inRelease := true }).modify c fun conn =>
    { conn with putChannel := false } }, rfl, rfl, rfl, ?_⟩
  unfold mscReleaseConnection
  rw [hconn]
  simp [hserved.1, hserved.2, hhas, hi]

theorem mscReleaseConnection_quiet
    (h : Served conn → ¬ CallWaits net.transList (kick ops i net.paging (net.requests i)).1) :
    (mscReleaseConnection ops app net c).2 = [] ∧
      (mscReleaseConnection ops app net c).1.transList = net.transList ∧
      (Served conn → (mscReleaseConnection ops app net c).1.requests i = (kick ops i net.paging (net.requests i)).2.1 ∧
        (mscReleaseConnection ops app net c).1.paging = (kick ops i net.paging (net.requests i)).2.2) ∧
      (¬ Served conn → (mscReleaseConnection ops app net c).1.requests i = net.requests i ∧
        (mscReleaseConnection ops app net c).1.paging = net.paging) := by
  by_cases hserved : Served conn
  · obtain ⟨net', htrans, hreqs, hpaging, hout⟩ := mscReleaseConnection_served hconn hi hnone
      hserved
    obtain ⟨htouches, hsame, hleft, hafter⟩ := putChannel_quiet ops app i (net.requests i) net'
      (by rw [hreqs]) (by rw [htrans, hpaging]; exact h hserved)
    rw [hout]
    rw [hpaging] at hleft hafter
    exact ⟨htouches, hsame.trans htrans, fun _ => ⟨hleft, hafter⟩, fun hnot => absurd hserved hnot⟩
  · suffices hout : (mscReleaseConnection ops app net c).2 = [] ∧
        (mscReleaseConnection ops app net c).1.transList = net.transList ∧
        (mscReleaseConnection ops app net c).1.requests = net.requests ∧
        (mscReleaseConnection ops app net c).1.paging = net.paging by
      obtain ⟨htouches, htrans, hreqs, hpaging⟩ := hout
      exact ⟨htouches, htrans, fun hyes => absurd hyes hserved, fun _ => ⟨congrFun hreqs i, hpaging⟩⟩
    unfold mscReleaseConnection
    rw [hconn]
    dsimp only
    split
    case isFalse => exact ⟨rfl, rfl, rfl, rfl⟩
    case isTrue hfree =>
      have hput : conn.putChannel = false := by
        rw [← Bool.not_eq_true]
        exact fun hput => hserved ⟨(Bool.and_eq_true_iff.mp hfree).1, hput⟩
      rw [hput]
      exact ⟨rfl, rfl, rfl, rfl⟩

end

theorem sapiLoop_none (ts : List Nat) (hnone : ¬ ∃ t u, On net c t u) : sapiLoop ops app c ts net = (net, []) := by
  induction ts with
  | nil => rfl
  | cons t ts ih =>
    rw [sapiLoop, sapiTrans_other fun u hu => hnone ⟨t, u, hu⟩]
    simp only [ih]
    rfl

/-- With one transaction of the connection less, the others decide. -/
theorem releases_removed (ts : List Nat) (hon : On net c t u) (hsms : u.body.sms.isSome = true)
    (hleft : ∃ t' u', On (removed net t) c t' u') : Releases (removed net t) c ts ↔ Releases net c (t :: ts) := by
  constructor
  · rintro ⟨_, hall⟩
    refine ⟨⟨t, u, hon⟩, fun t' u' hon' => ?_⟩
    by_cases heq : t' = t
    · subst heq
      cases hon.1.symm.trans hon'.1
      exact ⟨mem_cons_self, hsms⟩
    · obtain ⟨hmem, hsms'⟩ := hall t' u' (on_removed.mpr ⟨heq, hon'⟩)
      exact ⟨mem_cons_of_mem t hmem, hsms'⟩
  · rintro ⟨_, hall⟩
    refine ⟨hleft, fun t' u' hon' => ?_⟩
    obtain ⟨hne, hon'⟩ := on_removed.mp hon'
    obtain ⟨hmem, hsms'⟩ := hall t' u' hon'
    exact ⟨(mem_cons.mp hmem).resolve_left hne, hsms'⟩

/-- One that is of another connection makes no difference. -/
theorem releases_other (ts : List Nat) (h : ∀ u, ¬ On net c t u) : Releases net c ts ↔ Releases net c (t :: ts) := by
  constructor
  · rintro ⟨hsome, hall⟩
    exact ⟨hsome, fun t' u' hon' => ⟨mem_cons_of_mem t (hall t' u' hon').1, (hall t' u' hon').2⟩⟩
  · rintro ⟨hsome, hall⟩
    refine ⟨hsome, fun t' u' hon' => ⟨(mem_cons.mp (hall t' u' hon').1).resolve_left ?_, (hall t' u' hon').2⟩⟩
    rintro rfl
    exact h u' hon'

theorem callWaits_removed (hon : On net c t u) (failed : List ChanCallback) :
    CallWaits (removed net t).transList failed ↔ CallWaits net.transList failed :=
  exists_congr fun t' => and_congr_right fun _ => by rw [removed, waiting_removed hon t']

/-- What the loop leaves, where only short messages are on the connection and no waiting call fails. -/
structure LoopDone (ops : PagingOps ρ) (net : SapiNet ρ) (c : Nat) (conn : SapiConn) (i : Nat) (ts : List Nat)
    (out : SapiNet ρ × List TransTouch) : Prop where
  touches : ∀ touch ∈ out.2, ∃ u, On net c touch.trans u
  others : ∀ t u, net.transList.get? t = some u → u.conn ≠ some c → out.1.transList.get? t = some u
  left : ∀ t u, out.1.transList.get? t = some u → net.transList.get? t = some u
  served : Releases net c ts → Served conn → out.1.requests i = (kick ops i net.paging (net.requests i)).2.1 ∧
    out.1.paging = (kick ops i net.paging (net.requests i)).2.2
  unserved : ¬ (Releases net c ts ∧ Served conn) → out.1.requests i = net.requests i ∧ out.1.paging = net.paging

theorem others_removed (hon : On net c t u) {t' : Nat} {u' : UnionTrans} (hget : net.transList.get? t' = some u')
    (hne : u'.conn ≠ some c) : (removed net t).transList.get? t' = some u' := by
  have hdiff : t' ≠ t := by
    rintro rfl
    exact hne (Option.some.inj (hget.symm.trans hon.1) ▸ hon.2)
  rw [removed, get?_remove, if_neg hdiff]
  exact hget

section

variable {ts : List Nat} {out : SapiNet ρ × List TransTouch}

/-- A transaction of another connection. -/
theorem LoopDone.other (hdone : LoopDone ops net c conn i ts out) (h : ∀ u, ¬ On net c t u) :
    LoopDone ops net c conn i (t :: ts) out := by
  have hrel := releases_other ts h
  exact ⟨hdone.touches, hdone.others, hdone.left, fun hreleases => hdone.served (hrel.mpr hreleases),
    fun hnot => hdone.unserved fun hyes => hnot ⟨hrel.mp hyes.1, hyes.2⟩⟩

/-- One without a short message: the connection stays. -/
theorem LoopDone.noSms (hdone : LoopDone ops net c conn i ts out) (hon : On net c t u) (hsms : u.body.sms = none) :
    LoopDone ops net c conn i (t :: ts) (out.1, .readSms t :: out.2) := by
  have hnot : ∀ ts', ¬ Releases net c ts' := by
    intro ts' hrel
    have hsome := (hrel.all t u hon).2
    rw [hsms] at hsome
    cases hsome
  refine ⟨fun touch hin => ?_, hdone.others, hdone.left, fun hrel => absurd hrel (hnot _),
    fun _ => hdone.unserved fun hyes => hnot ts hyes.1⟩
  rcases mem_cons.mp hin with rfl | hin
  · exact ⟨u, hon⟩
  · exact hdone.touches touch hin

/-- One that goes while others are on the connection. -/
theorem LoopDone.gone {touches : List TransTouch} (hdone : LoopDone ops (removed net t) c conn i ts out)
    (hon : On net c t u) (hsms : u.body.sms.isSome = true) (hown : ∀ touch ∈ touches, ∃ v, On net c touch.trans v)
    (hleft : ∃ t' u', On (removed net t) c t' u') : LoopDone ops net c conn i (t :: ts) (out.1, touches ++ out.2) := by
  have hrel := releases_removed ts hon hsms hleft
  refine ⟨fun touch hin => ?_, fun t' u' hget hne => hdone.others t' u' (others_removed hon hget hne) hne,
    fun t' u' hget => (get?_of_remove (hdone.left t' u' hget)).2,
    fun hreleases hserved => hdone.served (hrel.mpr hreleases) hserved,
    fun hnot => hdone.unserved fun hyes => hnot ⟨hrel.mp hyes.1, hyes.2⟩⟩
  rcases mem_append.mp hin with hin | hin
  · exact hown touch hin
  · obtain ⟨v, hv⟩ := hdone.touches touch hin
    exact ⟨v, (on_removed.mp hv).2⟩

end

/-- If a transaction with a short message is the last of the connection, the connection is released. -/
theorem releases_last (ts : List Nat) (hon : On net c t u) (hsms : u.body.sms.isSome = true)
    (hleft : ¬ ∃ t' u', On (removed net t) c t' u') : Releases net c (t :: ts) := by
  refine ⟨⟨t, u, hon⟩, fun t' u' hon' => ?_⟩
  have heq : t' = t := by
    by_contra hne
    exact hleft ⟨t', u', on_removed.mpr ⟨hne, hon'⟩⟩
  subst heq
  cases hon.1.symm.trans hon'.1
  exact ⟨mem_cons_self, hsms⟩

/-- **The loop: the transactions of the connection go, and with the last of them the connection.** -/
theorem sapiLoop_quiet (ops : PagingOps ρ) (app : Pool UnionTrans → Pool UnionTrans) (ts : List Nat) (net : SapiNet ρ)
    (hconn : net.conns.get? c = some conn)
    (hi : conn.subscr = some i) (honly : OnlySms net c)
    (h : Releases net c ts → Served conn → ¬ CallWaits net.transList (kick ops i net.paging (net.requests i)).1) :
    LoopDone ops net c conn i ts (sapiLoop ops app c ts net) := by
  induction ts generalizing net with
  | nil =>
    have hnot : ¬ Releases net c [] := by
      rintro ⟨⟨t, u, hon⟩, hall⟩
      exact absurd (hall t u hon).1 not_mem_nil
    exact ⟨fun _ hin => absurd hin not_mem_nil, fun _ _ hget _ => hget, fun _ _ hget => hget,
      fun hrel => absurd hrel hnot, fun _ => ⟨rfl, rfl⟩⟩
  | cons t ts ih =>
    by_cases hon : ∃ u, On net c t u
    · obtain ⟨u, hon⟩ := hon
      by_cases hsms : u.body.sms.isSome = true
      · obtain ⟨touches, htouches, hstep⟩ := sapiTrans_sms hon (honly t u hon) hsms
        have hown : ∀ touch ∈ touches, ∃ v, On net c touch.trans v := fun touch hin => ⟨u, htouches touch hin ▸ hon⟩
        by_cases hleft : ∃ t' u', On (removed net t) c t' u'
        · rw [mscReleaseConnection_held hleft, append_nil] at hstep
          have hdone := ih (removed net t) hconn (fun t' u' hon' => honly t' u' (on_removed.mp hon').2)
            fun hreleases hserved => by
              rw [callWaits_removed hon]
              exact h ((releases_removed ts hon hsms hleft).mp hreleases) hserved
          rw [sapiLoop, hstep]
          exact hdone.gone hon hsms hown hleft
        · -- the last one: the connection goes, and nothing is left to do
          have hreleases := releases_last ts hon hsms hleft
          have hconn' : (removed net t).conns.get? c = some conn := hconn
          obtain ⟨hnone, hsame, hserved, hunserved⟩ := mscReleaseConnection_quiet hconn' hi hleft fun hserved => by
              rw [callWaits_removed hon]
              exact h hreleases hserved
          rw [hnone, append_nil] at hstep
          have hrest : sapiLoop ops app c ts (mscReleaseConnection ops app (removed net t) c).1 =
              ((mscReleaseConnection ops app (removed net t) c).1, []) := by
            refine sapiLoop_none ts fun ⟨t', u', hon'⟩ => hleft ⟨t', u', ?_, hon'.2⟩
            rw [← hsame]
            exact hon'.1
          rw [sapiLoop, hstep]
          simp only [hrest, append_nil]
          refine ⟨hown, fun t' u' hget hne => ?_, fun t' u' hget => ?_, fun _ => hserved,
            fun hnot => hunserved fun hyes => hnot ⟨hreleases, hyes⟩⟩
          · rw [hsame]
            exact others_removed hon hget hne
          · rw [hsame] at hget
            exact (get?_of_remove hget).2
      · have hno : u.body.sms = none := by
          rw [← Option.not_isSome_iff_eq_none]
          exact hsms
        have hdone := ih net hconn honly fun hrel => absurd (hrel.all t u hon).2 hsms
        rw [sapiLoop, sapiTrans_noSms hon hno]
        exact hdone.noSms hon hno
    · have hother : ∀ u, ¬ On net c t u := fun u hu => hon ⟨u, hu⟩
      have hdone := ih net hconn honly fun hreleases => h ((releases_other ts hother).mp hreleases)
      rw [sapiLoop, sapiTrans_other hother]
      exact hdone.other hother

theorem sapiLoop_loud (ts : List Nat) (net : SapiNet ρ) (hconn : net.conns.get? c = some conn)
    (hi : conn.subscr = some i) (honly : OnlySms net c) (hrel : Releases net c ts) (hserved : Served conn)
    (h : CallWaits net.transList (kick ops i net.paging (net.requests i)).1) :
    ∃ touch ∈ (sapiLoop ops app c ts net).2, waiting net.transList touch.trans = true := by
  induction ts generalizing net with
  | nil =>
    obtain ⟨⟨t, u, hon⟩, hall⟩ := hrel
    exact absurd (hall t u hon).1 not_mem_nil
  | cons t ts ih =>
    by_cases hon : ∃ u, On net c t u
    · obtain ⟨u, hon⟩ := hon
      have hsms := (hrel.all t u hon).2
      obtain ⟨touches, _, hstep⟩ := sapiTrans_sms hon (honly t u hon) hsms
      by_cases hleft : ∃ t' u', On (removed net t) c t' u'
      · rw [mscReleaseConnection_held hleft] at hstep
        obtain ⟨touch, hin, hwaits⟩ := ih (removed net t) hconn
          (fun t' u' hon' => honly t' u' (on_removed.mp hon').2) ((releases_removed ts hon hsms hleft).mpr hrel)
          ((callWaits_removed hon _).mpr h)
        refine ⟨touch, ?_, (waiting_removed hon _).symm.trans hwaits⟩
        rw [sapiLoop, hstep]
        exact mem_append_right _ hin
      · have hconn' : (removed net t).conns.get? c = some conn := hconn
        obtain ⟨net', htrans, hreqs, hpaging, hout⟩ := mscReleaseConnection_served hconn' hi hleft hserved
        obtain ⟨touch, hin, hwaits⟩ := putChannel_loud ops app i (net.requests i) net' (by
          rw [htrans, hpaging]
          exact (callWaits_removed hon _).mpr h)
        rw [htrans] at hwaits
        refine ⟨touch, ?_, (waiting_removed hon _).symm.trans hwaits⟩
        rw [sapiLoop, hstep, hout]
        exact mem_append_left _ (mem_append_right _ hin)
    · have hother : ∀ u, ¬ On net c t u := fun u hu => hon ⟨u, hu⟩
      rw [sapiLoop, sapiTrans_other hother]
      exact ih net hconn honly ((releases_other ts hother).mpr hrel) h

/-! ## What is touched -/

/-- Nothing is touched but short messages of the connection, and all other transactions are as they were. -/
structure OnlyOwnSms (net : SapiNet ρ) (c : Nat) (out : SapiNet ρ × List TransTouch) : Prop where
  own : ∀ touch ∈ out.2, ∃ u, net.transList.get? touch.trans = some u ∧ u.protocol = .sms ∧ u.conn = some c
  others : ∀ t u, net.transList.get? t = some u → ¬ (u.protocol = .sms ∧ u.conn = some c) →
    out.1.transList.get? t = some u

/-- The connection has transactions of short messages only; and when the queue of its subscriber is served, no request
    of a waiting call fails at once: once, and a second time if the connection is released and had been given to a
    requester. -/
def LeavesCalls (ops : PagingOps ρ) (net : SapiNet ρ) (c : Nat) : Prop :=
  ∀ conn i, net.conns.get? c = some conn → conn.subscr = some i →
    OnlySms net c ∧
    ¬ CallWaits net.transList (kick ops i net.paging (net.requests i)).1 ∧
    (Releases net c net.transList.ids → Served conn → ¬ CallWaits net.transList
      (kick ops i (kick ops i net.paging (net.requests i)).2.2 (kick ops i net.paging (net.requests i)).2.1).1)

theorem not_on_of_waiting (h : waiting net.transList t = true) (hget : net.transList.get? t = some u) :
    u.conn = none := by
  unfold waiting at h
  rw [hget] at h
  simp only [Option.any_some, Bool.and_eq_true, Option.isNone_iff_eq_none] at h
  exact h.2

theorem LoopDone.callWaits {ts : List Nat} {out : SapiNet ρ × List TransTouch} (h : LoopDone ops net c conn i ts out)
    (t : Nat) : waiting out.1.transList t = waiting net.transList t := by
  rw [Bool.eq_iff_iff]
  constructor
  · intro hwaits
    unfold waiting at hwaits ⊢
    cases hget : out.1.transList.get? t with
    | none => simp [hget] at hwaits
    | some u =>
      rw [h.left t u hget]
      rwa [hget] at hwaits
  · intro hwaits
    cases hget : net.transList.get? t with
    | none => simp [waiting, hget] at hwaits
    | some u =>
      have hnone := not_on_of_waiting hwaits hget
      unfold waiting at hwaits ⊢
      rw [h.others t u hget (by rw [hnone]; exact nofun)]
      rwa [hget] at hwaits

theorem LoopDone.callWaits_iff {ts : List Nat} {out : SapiNet ρ × List TransTouch}
    (h : LoopDone ops net c conn i ts out) (failed : List ChanCallback) :
    CallWaits out.1.transList failed ↔ CallWaits net.transList failed :=
  exists_congr fun t => and_congr_right fun _ => by rw [h.callWaits t]

theorem gsm411SapiNReject_eq (hconn : net.conns.get? c = some conn) (hi : conn.subscr = some i) :
    gsm411SapiNReject ops app net c =
      ((subscrPutChannel ops app i ((sapiLoop ops app c net.transList.ids net).1.requests i)
          (sapiLoop ops app c net.transList.ids net).1).1,
        (sapiLoop ops app c net.transList.ids net).2 ++
          (subscrPutChannel ops app i ((sapiLoop ops app c net.transList.ids net).1.requests i)
            (sapiLoop ops app c net.transList.ids net).1).2) := by
  unfold gsm411SapiNReject
  rw [hconn, Option.bind_some, hi]

/-- Without a subscriber of the connection nothing is done. -/
theorem gsm411SapiNReject_none (h : ¬ ∃ conn i, net.conns.get? c = some conn ∧ conn.subscr = some i) :
    gsm411SapiNReject ops app net c = (net, []) := by
  have hnone : (net.conns.get? c).bind SapiConn.subscr = none := by
    cases hconn : net.conns.get? c with
    | none => rfl
    | some conn =>
      cases hi : conn.subscr with
      | none => exact hi
      | some i => exact absurd ⟨conn, i, hconn, hi⟩ h
  unfold gsm411SapiNReject
  rw [hnone]

/-- The condition, of the connection that there is. -/
theorem leavesCalls_iff (hconn : net.conns.get? c = some conn) (hi : conn.subscr = some i) :
    LeavesCalls ops net c ↔ OnlySms net c ∧
      ¬ CallWaits net.transList (kick ops i net.paging (net.requests i)).1 ∧
      (Releases net c net.transList.ids → Served conn → ¬ CallWaits net.transList
        (kick ops i (kick ops i net.paging (net.requests i)).2.2 (kick ops i net.paging (net.requests i)).2.1).1) := by
  constructor
  · exact fun h => h conn i hconn hi
  · intro h conn' i' hconn' hi'
    cases hconn.symm.trans hconn'
    cases hi.symm.trans hi'
    exact h

/-- A touch of a waiting call is none of a short message of the connection. -/
theorem not_own_of_waiting {touch : TransTouch} (hwaits : waiting net.transList touch.trans = true) :
    ¬ ∃ u, net.transList.get? touch.trans = some u ∧ u.protocol = .sms ∧ u.conn = some c := by
  rintro ⟨u, hget, _, hu⟩
  rw [not_on_of_waiting hwaits hget] at hu
  cases hu

/-- If the queue fails a waiting call behind the loop, then not only short messages of the connection are touched. -/
theorem LoopDone.not_own {ts : List Nat} {loop : SapiNet ρ × List TransTouch}
    (hdone : LoopDone ops net c conn i ts loop)
    (hwaits : CallWaits net.transList (kick ops i loop.1.paging (loop.1.requests i)).1) :
    ¬ ∀ touch ∈ loop.2 ++ (subscrPutChannel ops app i (loop.1.requests i) loop.1).2,
      ∃ u, net.transList.get? touch.trans = some u ∧ u.protocol = .sms ∧ u.conn = some c := by
  intro hown
  obtain ⟨touch, hin, hw⟩ := putChannel_loud ops app i (loop.1.requests i) loop.1 ((hdone.callWaits_iff _).mpr hwaits)
  exact not_own_of_waiting ((hdone.callWaits _).symm.trans hw) (hown touch (mem_append_right _ hin))

/-- What touches short messages of the connection only meets the condition. -/
theorem OnlyOwnSms.leavesCalls (hconn : net.conns.get? c = some conn) (hi : conn.subscr = some i)
    (hown : OnlyOwnSms net c (gsm411SapiNReject ops app net c)) : LeavesCalls ops net c := by
  rw [gsm411SapiNReject_eq hconn hi] at hown
  rw [leavesCalls_iff hconn hi]
  have honly : OnlySms net c := by
    intro t u hon
    by_contra hcall
    obtain ⟨touch, hin, v, hv, hvcall⟩ := sapiLoop_reads net.transList.ids net
      ⟨t, mem_ids.mpr ⟨u, hon.1⟩, u, hon, hcall⟩
    obtain ⟨v', hv', hsms, _⟩ := hown.own touch (mem_append_left _ hin)
    cases hv.symm.trans hv'
    exact hvcall hsms
  have hfirst : ¬ CallWaits net.transList (kick ops i net.paging (net.requests i)).1 := by
    intro hwaits
    by_cases hrel : Releases net c net.transList.ids ∧ Served conn
    · -- the connection is released in the loop, and its release serves the queue
      obtain ⟨touch, hin, hw⟩ := sapiLoop_loud net.transList.ids net hconn hi honly hrel.1 hrel.2 hwaits
      exact not_own_of_waiting hw (hown.own touch (mem_append_left _ hin))
    · have hdone := sapiLoop_quiet ops app net.transList.ids net hconn hi honly fun h1 h2 => absurd ⟨h1, h2⟩ hrel
      obtain ⟨hreqs, hpaging⟩ := hdone.unserved hrel
      refine hdone.not_own ?_ hown.own
      rw [hreqs, hpaging]
      exact hwaits
  refine ⟨honly, hfirst, fun hrel hserved hwaits => ?_⟩
  have hdone := sapiLoop_quiet ops app net.transList.ids net hconn hi honly fun _ _ => hfirst
  obtain ⟨hreqs, hpaging⟩ := hdone.served hrel hserved
  refine hdone.not_own ?_ hown.own
  rw [hreqs, hpaging]
  exact hwaits

/-- Under the condition only short messages of the connection are touched. -/
theorem LeavesCalls.onlyOwnSms (hconn : net.conns.get? c = some conn) (hi : conn.subscr = some i)
    (h : LeavesCalls ops net c) : OnlyOwnSms net c (gsm411SapiNReject ops app net c) := by
  obtain ⟨honly, hfirst, hsecond⟩ := (leavesCalls_iff hconn hi).mp h
  rw [gsm411SapiNReject_eq hconn hi]
  have hdone := sapiLoop_quiet ops app net.transList.ids net hconn hi honly fun _ _ => hfirst
  have hquiet : ¬ CallWaits (sapiLoop ops app c net.transList.ids net).1.transList
      (kick ops i (sapiLoop ops app c net.transList.ids net).1.paging
        ((sapiLoop ops app c net.transList.ids net).1.requests i)).1 := by
    rw [hdone.callWaits_iff]
    by_cases hrel : Releases net c net.transList.ids ∧ Served conn
    · obtain ⟨hreqs, hpaging⟩ := hdone.served hrel.1 hrel.2
      rw [hreqs, hpaging]
      exact hsecond hrel.1 hrel.2
    · obtain ⟨hreqs, hpaging⟩ := hdone.unserved hrel
      rw [hreqs, hpaging]
      exact hfirst
  obtain ⟨htouches, hsame, _, _⟩ := putChannel_quiet ops app i
    ((sapiLoop ops app c net.transList.ids net).1.requests i) (sapiLoop ops app c net.transList.ids net).1 rfl hquiet
  refine ⟨fun touch hin => ?_, fun t u hget hnot => ?_⟩
  · rw [htouches, append_nil] at hin
    obtain ⟨u, hon⟩ := hdone.touches touch hin
    exact ⟨u, hon.1, honly _ u hon, hon.2⟩
  · rw [hsame]
    exact hdone.others t u hget fun hu => hnot ⟨honly t u ⟨hget, hu⟩, hu⟩

/-- **Whatever the state of the network: `gsm411_sapi_n_reject` touches short messages of the connection only exactly if
    the connection has nothing else, and serving the queue makes no waiting call fail.** -/
theorem sapiNReject_onlyOwnSms_iff (ops : PagingOps ρ) (app : Pool UnionTrans → Pool UnionTrans) (net : SapiNet ρ)
    (c : Nat) : OnlyOwnSms net c (gsm411SapiNReject ops app net c) ↔ LeavesCalls ops net c := by
  by_cases hsub : ∃ conn i, net.conns.get? c = some conn ∧ conn.subscr = some i
  · obtain ⟨conn, i, hconn, hi⟩ := hsub
    exact ⟨fun h => h.leavesCalls hconn hi, fun h => h.onlyOwnSms hconn hi⟩
  · rw [gsm411SapiNReject_none hsub]
    exact iff_of_true ⟨fun _ hin => absurd hin not_mem_nil, fun _ _ hget _ => hget⟩
      fun conn i hconn hi => absurd ⟨conn, i, hconn, hi⟩ hsub

/-- A call that is being released on a connection: the stored message has a cause, and this is what `sms` reads as. -/
def callOnly : SapiNet Unit where
  transList := Pool.empty.alloc
    { protocol := .cc, transactionId := 8, subscr := 1, conn := some 0, callref := 5
      body := { cc := { state := .disconnectInd, msg := { callref := 5, cause := some ⟨.user, .normCallClear⟩ } }
                sms := some 0x20 } }
  conns := Pool.empty.alloc { subscr := some 1 }
  paging := ()

/-- **The call is freed.** -/
theorem not_onlyOwnSms :
    ¬ ∀ (ops : PagingOps Unit) (app : Pool UnionTrans → Pool UnionTrans) (net : SapiNet Unit) (c : Nat),
    OnlyOwnSms net c (gsm411SapiNReject ops app net c) := by
  intro h
  have hcall : callOnly.transList.get? 0 = some
      { protocol := .cc, transactionId := 8, subscr := 1, conn := some 0, callref := 5
        body := { cc := { state := .disconnectInd, msg := { callref := 5, cause := some ⟨.user, .normCallClear⟩ } }
                  sms := some 0x20 } } := rfl
  have hkept := (h ⟨fun p _ => (p, true), fun p _ => p⟩ id callOnly 0).others 0 _ hcall (by decide)
  have hgone : (gsm411SapiNReject ⟨fun p _ => (p, true), fun p _ => p⟩ id callOnly 0).1.transList.get? 0 = none := by
    decide
  rw [hgone] at hkept
  cases hkept

end SapiNet

end OpenBsc.Libmsc

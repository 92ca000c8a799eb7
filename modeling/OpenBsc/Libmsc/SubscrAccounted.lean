import OpenBsc.Libmsc.SubscrRefs

/-!
# `Libmsc.SubscrAccounted` — the references to subscribers are accounted for

In every run whose steps are careful the use count of each subscriber is the number of those who refer to it, and nobody
looks at a subscriber that was freed (`refsAccounted_of_careful`). Four steps are not careful: a location update that
names the subscriber of a connection which has one, whose reference is lost; a CM SERVICE REQUEST with the identity of
somebody nobody else refers to; a paging request that expires as the last one who refers to its subscriber, as after
the requests were cleared; and a paging response that ends so, or whose request was removed meanwhile.
-/

namespace OpenBsc.Libmsc

open Transition RefCount MscNet Pool List

/-! ## The condition -/

namespace MscNet

/-- A LOCATION UPDATING REQUEST finds a subscriber only for a connection that has none. -/
def NamesOnce (s : MscNet) (conn : NetConn) (msg : Gsm48Msg) (a : NetAnswers) : Prop :=
  conn.locOperation = none → ∀ i, (s.lookup (locUpdLookup a.found msg.mi)).2 = some i → conn.subscr = none

/-- The subscriber whose classmark a CM SERVICE REQUEST stores is in memory, also if the connection is somebody
    else's. -/
def StoresOfLive (s : MscNet) (conn : NetConn) (msg : Gsm48Msg) (a : NetAnswers) : Prop :=
  8 ≤ msg.dataLen → msg.miLen + 6 ≤ msg.dataLen → (∃ tmsi, msg.mi = .tmsi tmsi) → ∀ i o,
    (s.lookup a.found).2 = some i → conn.subscr = some o → o = i ∨ (s.lookup a.found).1.Outlasts i 1

/-- **The condition.** A location update names the subscriber of a connection that has none; a CM SERVICE REQUEST on
    somebody else's connection, the expiry of a paging request and the end of a paging response find the subscriber in
    memory when they have dropped their references to it; and the request a paging response has answered is still
    pending when its callback returns. -/
def Careful (s : MscNet) : NetEvent → Prop
  | .dtap c msg a => ∀ conn, s.conns.get? c = some conn → conn.silentCallReroute msg = false →
      (msg.kind = .mm .locUpdRequest → s.NamesOnce conn msg a) ∧
      (msg.kind = .mm .cmServReq → s.StoresOfLive conn msg a)
  | .expired req => ∀ p, s.paging.get? req = some p → p.cbfn = .subscrPaging → s.Outlasts p.subscr 1
  | .ret => ∀ bts req i, s.stack.head? = some (.pagingStop bts req i) →
      (∃ p, s.paging.get? req = some p ∧ p.bts = bts ∧ p.subscr = i) ∧
      s.Outlasts i (s.pagedOn i (bts :: (s.btsByLac i).map PagingBts.nr))
  | _ => True

end MscNet

namespace AccountsWith

open MscNet

variable {s s' : MscNet} {hand : List Nat} {i : Nat} {c : Nat} {conn : NetConn}

/-! ## Messages -/

theorem gsm0408Authorize (h : AccountsWith hand s) (c : Nat) (a : NetAnswers) (hs : s.gsm0408Authorize c a = some s') :
    AccountsWith hand s' := by
  unfold MscNet.gsm0408Authorize at hs
  split at hs
  · cases hs
    exact h
  · split at hs
    · split at hs
      · cases hs
        exact h.gsm48SecureChannel c a.secure fun _ _ _ => nofun
      · cases hs
    · cases hs
      exact h

variable {msg : Gsm48Msg} {a : NetAnswers}

/-- **`mm_rx_loc_upd_req`**, where the connection has no subscriber if one is found. -/
theorem mmRxLocUpdReq (h : AccountsWith hand s) (hc : s.conns.get? c = some conn) (hnames : s.NamesOnce conn msg a)
    (hs : s.mmRxLocUpdReq c conn msg a = some s') : AccountsWith hand s' := by
  unfold MscNet.mmRxLocUpdReq at hs
  split at hs
  next =>
    cases hs
    exact h
  next hop =>
    simp only at hs
    generalize hwaits : locUpdWaits (s.lookup (locUpdLookup a.found msg.mi)).2.isSome msg.mi = waits at hs
    cases hfound : (s.lookup (locUpdLookup a.found msg.mi)).2 with
    | none =>
      rw [hfound, lookup_eq_of_none hfound] at hs
      cases hs
      exact h.modifyConn c (fun _ => rfl) fun _ => .inl rfl
    | some i =>
      rw [hfound] at hs
      have hnone : conn.subscr = none := hnames (by simpa using hop) i hfound
      have hstarted := (h.lookup hfound).modifyConn c
        (f := fun conn => { conn with locOperation := some ⟨msg.keySeq, waits.1, waits.2, true⟩ }) (fun _ => rfl)
        fun _ => .inl rfl
      have hget : ((s.lookup (locUpdLookup a.found msg.mi)).1.modifyConn c fun conn =>
          { conn with locOperation := some ⟨msg.keySeq, waits.1, waits.2, true⟩ }).conns.get? c =
          some { conn with locOperation := some ⟨msg.keySeq, waits.1, waits.2, true⟩ } := by
        refine get?_modify_self ?_
        rw [(lookup_frame s _).1]
        exact hc
      exact ((hstarted.setSubscr hget hnone).emit (.stored i)).gsm0408Authorize c a hs

/-- **`mm_rx_id_resp`.** -/
theorem mmRxIdResp (h : AccountsWith hand s) (hc : s.conns.get? c = some conn)
    (hs : s.mmRxIdResp c conn msg a = some s') : AccountsWith hand s' := by
  unfold MscNet.mmRxIdResp at hs
  split at hs
  · have hnamed : AccountsWith hand (s.nameByImsi c conn a.found) := by
      unfold nameByImsi
      split
      next hnone =>
        split
        next => exact h
        next i hfound =>
          have hget : (s.lookup a.found.orCreated).1.conns.get? c = some conn := by
            rw [(lookup_frame s _).1]
            exact hc
          exact (h.lookup hfound).setSubscr hget (Option.isNone_iff_eq_none.mp hnone)
      next => exact h
    exact (hnamed.modifyConn c (f := NetConn.gotImsi) (fun _ => rfl) fun _ => .inl rfl).gsm0408Authorize c a hs
  all_goals try exact h.gsm0408Authorize c a hs
  all_goals
    have hstored : AccountsWith hand (s.storeImei conn) := by
      unfold storeImei
      split
      next => exact h
      next i hi => exact (h.touch (h.live_of_conn hc hi)).emit _
    exact (hstored.modifyConn c (f := NetConn.gotImei) (fun _ => rfl) fun _ => .inl rfl).gsm0408Authorize c a hs

/-- The subscriber that was looked up, or the reference to it, is the connection's. -/
theorem nameOrPut (h : AccountsWith (i :: hand) s) (hc : s.conns.get? c = some conn) :
    AccountsWith hand (s.nameOrPut c conn i) := by
  unfold MscNet.nameOrPut
  split
  next hnone => exact h.setSubscr hc (Option.isNone_iff_eq_none.mp hnone)
  next => exact h.subscrPut

/-- What the connection is after `nameOrPut`. -/
theorem get?_nameOrPut (hc : s.conns.get? c = some conn) (hi : conn.subscr = none ∨ conn.subscr = some i) :
    ∃ conn', (s.nameOrPut c conn i).conns.get? c = some conn' ∧ conn'.subscr = some i := by
  unfold MscNet.nameOrPut
  rcases hi with hnone | hown
  · rw [hnone, Option.isNone_none, if_pos rfl]
    exact ⟨_, get?_modify_self hc, rfl⟩
  · rw [hown, Option.isNone_some, if_neg Bool.false_ne_true, (subscrPut_frame s i).1]
    exact ⟨conn, hc, hown⟩

section

variable (h : AccountsWith hand s)

include h

/-- **`gsm48_rx_mm_serv_req`**, where the classmark is stored for a subscriber that is in memory. -/
theorem gsm48RxMmServReq (hc : s.conns.get? c = some conn)
    (hlive : s.StoresOfLive conn msg a) : AccountsWith hand (s.gsm48RxMmServReq c conn msg a) := by
  unfold MscNet.gsm48RxMmServReq
  split
  · exact h
  next hlen =>
    split
    · exact h
    next hmiLen =>
      split
      next tmsi hmi =>
        split
        · exact h
        next i hfound =>
          have hget : (s.lookup a.found).1.conns.get? c = some conn := by
            rw [(lookup_frame s _).1]
            exact hc
          have hnamed := (h.lookup hfound).nameOrPut hget
          have hin : ((s.lookup a.found).1.nameOrPut c conn i).Live i := by
            cases howner : conn.subscr with
            | none =>
              obtain ⟨conn', hconn', hi⟩ := get?_nameOrPut (i := i) hget (.inl howner)
              exact hnamed.live_of_conn hconn' hi
            | some o =>
              rcases hlive (by omega) (by omega) ⟨tmsi, hmi⟩ i o hfound howner with rfl | hlast
              · obtain ⟨conn', hconn', hi⟩ := get?_nameOrPut (i := o) hget (.inr howner)
                exact hnamed.live_of_conn hconn' hi
              · unfold MscNet.nameOrPut
                rw [howner, Option.isNone_some, if_neg Bool.false_ne_true]
                exact (outlasts_subscrPut hlast ((h.lookup hfound).live_of_hand mem_cons_self)).1
          exact ((hnamed.touch hin).emit _).gsm48SecureChannel c a.secure fun _ _ _ => nofun
      all_goals exact h

/-- **`gsm48_rx_mm_imsi_detach_ind`.** -/
theorem gsm48RxMmImsiDetachInd (conn : NetConn) (msg : Gsm48Msg) (a : NetAnswers) :
    AccountsWith hand (s.gsm48RxMmImsiDetachInd conn msg a) := by
  have hdetach : ∀ i, (s.lookup a.found).2 = some i → ∀ s',
      (s' = (s.lookup a.found).1 ∨ s' = (s.lookup a.found).1.setLac i lacDetached) →
      AccountsWith hand (((s'.touch i).emit (.stored i)).subscrPut i) := by
    intro i hfound s' hs'
    have hheld : AccountsWith (i :: hand) s' := by
      rcases hs' with rfl | rfl
      · exact h.lookup hfound
      · exact (h.lookup hfound).setLac i lacDetached
    exact ((hheld.touch (hheld.live_of_hand mem_cons_self)).emit _).subscrPut
  unfold MscNet.gsm48RxMmImsiDetachInd
  split
  case h_3 | h_4 | h_5 => exact h
  all_goals
    split
    next => exact h
    next i hfound =>
      simp only
      split
      · exact hdetach i hfound _ (.inr rfl)
      · exact hdetach i hfound _ (.inl rfl)

section

variable (hc : s.conns.get? c = some conn)

include hc

theorem endOp {cb : SecParam}
    (hop : conn.secOperation = some cb) (event : GsmSecurity) :
    AccountsWith hand ((s.push (.releaseSec c)).invoke c conn cb event) := by
  refine (h.push fun _ => rfl).invoke c event (fun i hi => h.live_of_conn hc hi) fun i heq => ?_
  exact h.live_of_conn hc (h.secured c conn i hc (hop.trans (congrArg some heq)))

theorem gsm48RxMmAuthResp (a : NetAnswers) :
    AccountsWith hand (s.gsm48RxMmAuthResp c conn a) := by
  unfold MscNet.gsm48RxMmAuthResp
  split
  · exact h
  next cb hop =>
    split
    · exact h
    · exact h.endOp hc hop .authFailed

theorem gsm48RxRrCiphMCompl :
    AccountsWith hand (s.gsm48RxRrCiphMCompl c conn) := by
  unfold MscNet.gsm48RxRrCiphMCompl
  split
  · exact h
  next cb hop => exact h.endOp hc hop .succeeded

end

/-- **A paging response**, on a connection of the subscriber. -/
theorem pagingResponded (bts : Nat) {c : Nat} {conn : NetConn}
    (hc : s.conns.get? c = some conn) (hi : conn.subscr = some i) (a : NetAnswers) :
    AccountsWith hand (s.pagingResponded bts i c a) := by
  unfold MscNet.pagingResponded
  split
  · exact h.pagingRequestStop _ (h.live_of_conn hc hi) (h.outlasts_of_conn hc hi _)
  · simp only
    split
    · refine (h.push fun _ => rfl).gsm48SecureChannel c a.secure fun conn' j hc' hcb => ?_
      cases hcb
      cases hc.symm.trans hc'
      exact hi
    · exact (((h.push fun _ => rfl).modifyConn c (f := fun conn => { conn with silentCall := true }) (fun _ => rfl)
        fun _ => .inl rfl)).emit _

/-- **`gsm48_rx_rr_pag_resp`.** -/
theorem gsm48RxRrPagResp (hc : s.conns.get? c = some conn) (msg : Gsm48Msg) (a : NetAnswers) :
    AccountsWith hand (s.gsm48RxRrPagResp c conn msg a) := by
  unfold MscNet.gsm48RxRrPagResp
  split
  case h_3 | h_4 | h_5 => exact h
  all_goals
    split
    next => exact h
    next i hfound =>
      have hheld := h.lookup hfound
      have hget : (((s.lookup a.found).1.touch i).emit (.stored i)).conns.get? c = some conn := by
        rw [show (((s.lookup a.found).1.touch i).emit (.stored i)).conns = (s.lookup a.found).1.conns from rfl,
          (lookup_frame s _).1]
        exact hc
      have hnamed := ((hheld.touch (hheld.live_of_hand mem_cons_self)).emit (.stored i)).nameOrPut hget
      simp only
      split
      next => exact hnamed
      next howner =>
        have hown : conn.subscr = none ∨ conn.subscr = some i := by
          cases hsubscr : conn.subscr with
          | none => exact .inl rfl
          | some o =>
            rw [hsubscr] at howner
            exact .inr (congrArg some (by simpa using howner))
        obtain ⟨conn', hconn', hi⟩ := get?_nameOrPut (i := i) hget hown
        exact hnamed.pagingResponded conn.bts hconn' hi a

theorem withTrans (hi : s.Live i) {net : TransList Unit} (hnet : MadeFor s.net net i c) :
    AccountsWith hand (s.withTrans i net) := by
  unfold MscNet.withTrans
  rcases hnet with rfl | ⟨u, rfl, -, halloc⟩
  · rw [if_pos rfl]
    exact h
  · split
    · exact h
    · refine (h.subscrGet hi).handOver rfl rfl (fun j => ?_) h.secured
      unfold holders MscNet.subscrGet MscNet.touch
      simp only
      rw [halloc, count_alloc]
      rw [ite_beq]
      omega

/-- **A message of a phone.** -/
theorem gsm0408Dispatch (hc : s.conns.get? c = some conn)
    (hcareful : conn.silentCallReroute msg = false → (msg.kind = .mm .locUpdRequest → s.NamesOnce conn msg a) ∧
      (msg.kind = .mm .cmServReq → s.StoresOfLive conn msg a))
    (hs : s.gsm0408Dispatch c conn msg a = some s') : AccountsWith hand s' := by
  unfold MscNet.gsm0408Dispatch at hs
  split at hs
  next =>
    cases hs
    exact h
  next hreroute =>
    obtain ⟨hnames, hstores⟩ := hcareful (by simpa using hreroute)
    split at hs
    next =>
      unfold gsm0408RcvCc at hs
      split at hs
      · cases hs
        exact h.releaseAnchor c
      · obtain ⟨i, hi, rfl⟩ := Option.map_eq_some_iff.mp hs
        exact (h.releaseAnchor c).withTrans (h.live_of_conn hc hi) (madeFor_rcvCc _ c i _ _)
    next type hkind =>
      unfold gsm0408RcvMm at hs
      split at hs
      · exact h.mmRxLocUpdReq hc (hnames hkind) hs
      · exact h.mmRxIdResp hc hs
      all_goals cases hs
      · exact h.gsm48RxMmServReq hc (hstores hkind)
      · exact h.releaseLocUpdatingReq c
      · exact h.gsm48RxMmImsiDetachInd conn msg a
      · exact h.gsm48RxMmAuthResp hc a
      all_goals exact h
    next type _ =>
      unfold gsm0408RcvRr at hs
      split at hs
      · cases hs
        exact h.gsm48RxRrPagResp hc msg a
      · obtain ⟨i, hi, rfl⟩ := Option.map_eq_some_iff.mp hs
        exact (h.touch (h.live_of_conn hc hi)).emit _
      all_goals cases hs
      · exact h.gsm48RxRrCiphMCompl hc
      all_goals exact h
    next =>
      cases hs
      unfold gsm0411RcvSms
      split
      next => exact h.releaseAnchor c
      next i hi => exact (h.releaseAnchor c).withTrans (h.live_of_conn hc hi) (madeFor_rcvSms _ c i _)
    next =>
      unfold handleRcvUssd at hs
      split at hs
      · cases hs
        exact h.releaseAnchor c
      · split at hs
        · cases hs
        · cases hs
          exact (h.releaseAnchor c).mscReleaseConnection c
    next =>
      cases hs
      exact h

end

/-! ## Calls, short messages and commands -/

section

variable (h : AccountsWith hand s)

include h

/-- A transaction is made for a SETUP request. -/
theorem mnccTrans (hi : s.Live i) (conn : Option Nat) (callref : BitVec 32) :
    AccountsWith hand ({ s with net := s.net.mnccSetupReq () i conn callref }.subscrGet i) := by
  refine (h.subscrGet hi).handOver rfl rfl (fun j => ?_) h.secured
  unfold holders MscNet.subscrGet MscNet.touch TransList.mnccSetupReq
  simp only
  rw [count_alloc]
  simp only [ite_beq]
  omega

theorem mnccSetupReq (found : Lookup) (pick : Nat) (callref : BitVec 32) :
    AccountsWith hand (s.mnccSetupReq found pick callref) := by
  unfold MscNet.mnccSetupReq
  split
  next => exact h
  next i hfound =>
    have hheld := h.lookup hfound
    have hlive := hheld.live_of_hand mem_cons_self
    simp only
    split
    · exact (hheld.touch hlive).subscrPut
    · have hmade := hheld.mnccTrans hlive ((s.lookup found).1.connectionForSubscr i pick) callref
      split
      · exact hmade.subscrPut
      · split
        · exact hmade.subscrPut.transDrop _
        · exact (hmade.pushHeld fun _ => rfl).subscrGetChannel (hmade.live_of_hand mem_cons_self) _

theorem ccTxSetup (t : Nat) : AccountsWith hand (s.ccTxSetup t) := by
  unfold MscNet.ccTxSetup
  split
  · split
    · exact h.transFree t
    next hkept =>
      unfold TransList.ccTxSetup at hkept ⊢
      split at hkept
      next hnone => exact h
      next u hu =>
        split at hkept
        · exact absurd (by simp [TransList.free, get?_remove]) hkept
        next hid =>
          split at hkept
          · exact absurd (by simp [TransList.free, get?_remove]) hkept
          next j hassign =>
            rw [if_neg hid]
            exact h.modifyTrans t fun _ => rfl
  · exact h

theorem sendSms (c : Nat) (hs : s.sendSms c = some s') : AccountsWith hand s' := by
  unfold MscNet.sendSms at hs
  split at hs
  · cases hs
  next i hi =>
    cases hs
    obtain ⟨conn, hc, hsubscr⟩ := Option.bind_eq_some_iff.mp hi
    exact h.withTrans (h.live_of_conn hc hsubscr) (madeFor_sendSms s.net c i)

theorem live_of_sms (hi : i ∈ s.sms) : s.Live i := by
  have hpos : 0 < s.sms.count i := count_pos_iff.mpr hi
  refine h.live ?_
  unfold holders
  omega

theorem sendSmsSubscr (pick : Nat) (hs : s.sendSmsSubscr i pick = some s') :
    AccountsWith hand s' := by
  unfold MscNet.sendSmsSubscr at hs
  split at hs
  next hi =>
    split at hs
    · exact h.sendSms _ hs
    · cases hs
      exact h.subscrGetChannel (h.live_of_sms hi) .sendSms
  next => cases hs

end

theorem smsRef (h : AccountsWith (i :: hand) s) : AccountsWith hand (s.smsRef i) := by
  refine h.handOver rfl rfl (fun j => ?_) h.secured
  unfold holders MscNet.smsRef
  simp only
  rw [count_cons]
  rw [ite_beq]
  omega

theorem smsDrop (h : AccountsWith hand s) (hi : i ∈ s.sms) :
    AccountsWith hand ({ s with sms := s.sms.erase i }.subscrPut i) := by
  refine subscrPut (h.takeOver rfl rfl (fun j => ?_) h.secured)
  have hcount := (perm_cons_erase hi).count_eq j
  rw [count_cons] at hcount
  unfold holders
  simp only
  rw [ite_beq] at hcount
  omega

theorem gsmSilentCallStop (h : AccountsWith hand s) (i pick : Nat) :
    AccountsWith hand (s.gsmSilentCallStop i pick) := by
  unfold MscNet.gsmSilentCallStop
  split
  · exact h
  next c _ =>
    split
    · have hstopped := h.modifyConn c (f := fun conn => { conn with silentCall := false }) (fun _ => rfl) fun _ =>
        .inl rfl
      exact hstopped.mscReleaseConnection c
    · exact h

/-- **A command of the operator.** -/
theorem operatorCmd (h : AccountsWith (i :: hand) s) (cmd : OperatorCmd) : AccountsWith hand (s.operatorCmd i cmd) := by
  have hlive := h.live_of_hand mem_cons_self
  cases cmd with
  | clearRequests => exact (h.subscrPendingClear mem_cons_self).subscrPut
  | kickPending =>
    have hpushed : AccountsWith hand (s.push (.put i)) := h.pushHeld fun _ => rfl
    refine hpushed.subscrPutChannel (o := some i) fun j hj => ?_
    cases hj
    exact hlive
  | silentCallStart => exact (h.pagingRequest .silent hlive).1.subscrPut
  | silentCallStop pick => exact (h.pushHeld fun _ => rfl).gsmSilentCallStop i pick
  | other => exact (h.touch hlive).subscrPut

theorem mem_inactive {r : GsmSubscriber} (hr : s.subscrs.get? i = some r) : i ∈ s.inactive ↔ r.useCount ≤ 0 := by
  unfold inactive
  rw [mem_map]
  constructor
  · rintro ⟨e, he, rfl⟩
    obtain ⟨hmem, hle⟩ := mem_filter.mp he
    obtain rfl := entry_unique (get?_eq_some.mp hr) hmem
    exact of_decide_eq_true hle
  · intro hle
    exact ⟨(i, r), mem_filter.mpr ⟨get?_eq_some.mp hr, decide_eq_true hle⟩, rfl⟩

theorem purgeInactive (h : AccountsWith hand s) : AccountsWith hand s.subscrPurgeInactive where
  sound := h.sound
  counted := by
    have hpurged : s.subscrPurgeInactive.useCount = purge s.useCount := by
      funext i
      unfold useCount purge
      rw [show s.subscrPurgeInactive.subscrs = s.inactive.foldl remove s.subscrs from rfl, get?_foldl_remove]
      simp only
      cases hr : s.subscrs.get? i with
      | none =>
        rw [ite_self]
        rfl
      | some r =>
        by_cases hle : r.useCount ≤ 0
        · rw [if_pos ((mem_inactive hr).mpr hle)]
          simp [Option.filter, hle]
        · rw [if_neg (mt (mem_inactive hr).mp hle)]
          simp [Option.filter]
          omega
    rw [hpurged]
    exact h.counted.purge
  secured := h.secured

/-! ## Runs -/

/-- A reference that is dropped does not change where the subscriber is. -/
theorem lac_subscrPut {j : Nat} {r : GsmSubscriber} (hr : (s.subscrPut i).subscrs.get? j = some r) :
    ∃ old, s.subscrs.get? j = some old ∧ old.lac = r.lac := by
  unfold MscNet.subscrPut at hr
  split at hr
  · exact ⟨r, hr, rfl⟩
  · split at hr
    · exact ⟨r, (get?_of_remove hr).2, rfl⟩
    · rw [get?_modify] at hr
      split at hr
      · obtain ⟨old, hold, rfl⟩ := Option.map_eq_some_iff.mp hr
        exact ⟨old, hold, rfl⟩
      · exact ⟨r, hr, rfl⟩

theorem btsByLac_subscrPut (s : MscNet) (i j : Nat) : ∀ b ∈ (s.subscrPut i).btsByLac j, b ∈ s.btsByLac j := by
  intro b hb
  unfold btsByLac at hb ⊢
  obtain ⟨hmem, hlac⟩ := mem_filter.mp hb
  rw [(subscrPut_frame s i).2.2.2.2.2.2.2] at hmem
  obtain ⟨r, hr, hin⟩ := (Option.any_eq_true _ _).mp hlac
  obtain ⟨old, hold, hsame⟩ := lac_subscrPut hr
  refine mem_filter.mpr ⟨hmem, (Option.any_eq_true _ _).mpr ⟨old, hold, ?_⟩⟩
  rw [hsame]
  exact hin

/-- **A callback returns.** -/
theorem resume (h : AccountsWith hand s) {cont : NetCont} {stack : List NetCont} (hstack : s.stack = cont :: stack)
    (hstop : ∀ bts req i, cont = .pagingStop bts req i →
      (∃ p, s.paging.get? req = some p ∧ p.bts = bts ∧ p.subscr = i) ∧
      s.Outlasts i (s.pagedOn i (bts :: (s.btsByLac i).map PagingBts.nr))) :
    AccountsWith hand ({ s with stack := stack }.resume cont) := by
  cases cont with
  | dispatch i succeeded =>
    have hheld := h.pop (i := i) hstack fun _ => rfl
    have hlive := hheld.live_of_hand mem_cons_self
    have hback := hheld.modifySubscr i (f := fun r => { r with inCallback := false }) fun _ => rfl
    unfold MscNet.resume
    simp only [touch_of_live hlive]
    split
    · exact hback.subscrPut
    · have hstopped := hback.pagingRequestStop none (hback.live_of_hand mem_cons_self)
        (hback.outlasts_of_hand mem_cons_self _)
      refine (hstopped.pushHeld fun _ => rfl).subscrPutChannel fun j hj => ?_
      cases hj
      exact hstopped.live_of_hand mem_cons_self
  | put i => exact (h.pop (i := i) hstack fun _ => rfl).subscrPut
  | sapiReject i =>
    have hheld := h.pop (i := i) hstack fun _ => rfl
    have hpushed : AccountsWith hand (({ s with stack := stack } : MscNet).push (.put i)) :=
      hheld.pushHeld fun _ => rfl
    refine hpushed.subscrPutChannel (o := some i) fun j hj => ?_
    cases hj
    exact hheld.live_of_hand mem_cons_self
  | pagingStop bts req i =>
    obtain ⟨⟨p, hp, rfl, rfl⟩, hlast⟩ := hstop bts req i rfl
    have hrest := h.popNone hstack fun _ => rfl
    have hlive : s.Live p.subscr := by
      have hpos : 0 < s.paging.count fun q => q.subscr == p.subscr := count_pos hp (beq_self_eq_true _)
      refine h.live ?_
      unfold holders
      omega
    obtain ⟨hlive', hlast'⟩ := outlasts_pagingRemoveRequest (s := { s with stack := stack }) hp hlive hlast
      mem_cons_self fun _ hb => mem_cons_of_mem _ hb
    refine (hrest.pagingRemoveRequest hp).pagingRequestStop _ hlive' (hlast'.mono (pagedOn_mono fun nr hnr => ?_))
    obtain ⟨b, hb, rfl⟩ := mem_map.mp hnr
    rw [pagingRemoveRequest_eq (s := { s with stack := stack }) hp] at hb
    have hbefore := btsByLac_subscrPut { s with stack := stack, paging := s.paging.remove req } p.subscr p.subscr b hb
    exact mem_map.mpr ⟨b, hbefore, rfl⟩
  | conFree c => exact (h.popNone hstack fun _ => rfl).subscrConFree c
  | releaseSec c => exact (h.popNone hstack fun _ => rfl).releaseSecurityOperation c
  | clearRest c => exact (h.popNone hstack fun _ => rfl).clearRest c

/-- **The step.** -/
theorem handle (h : AccountsWith [] s) {ev : NetEvent} (hcareful : s.Careful ev) (hs : s.handle ev = some s') :
    AccountsWith [] s' := by
  unfold MscNet.handle at hs
  split at hs
  next bts =>
    cases hs
    refine h.congr rfl rfl (fun i => ?_) fun d conn i hd hop => ?_
    · unfold holders
      simp only
      rw [count_alloc, if_neg (by simp), Nat.add_zero]
    · have hconns : ({ s with conns := s.conns.alloc { bts := bts } } : MscNet).conns =
          s.conns.alloc { bts := bts } := rfl
      rw [hconns, get?_alloc] at hd
      split at hd
      · cases hd
        cases hop
      · exact h.secured d conn i hd hop
  next c msg a =>
    obtain ⟨conn, hc, hs⟩ := Option.bind_eq_some_iff.mp hs
    exact h.gsm0408Dispatch hc (hcareful conn hc) hs
  next c =>
    cases hs
    exact h.releaseLocUpdatingReq c
  next c =>
    split at hs
    · cases hs
      exact (h.releaseAnchor c).mscReleaseConnection c
    · cases hs
  next c =>
    obtain ⟨conn, hc, rfl⟩ := Option.map_eq_some_iff.mp hs
    exact h.gsm0408ClearRequest hc
  next c =>
    unfold gsm411SapiNReject at hs
    split at hs
    · cases hs
    next i hi =>
      cases hs
      obtain ⟨conn, hc, hsubscr⟩ := Option.bind_eq_some_iff.mp hi
      exact (h.subscrGet (h.live_of_conn hc hsubscr)).pushHeld fun _ => rfl
  next req =>
    obtain ⟨p, hp, rfl⟩ := Option.map_eq_some_iff.mp hs
    have hremoved := h.pagingRemoveRequest hp
    unfold pagingT3113Expired
    split
    next hcbfn =>
      have hlive : s.Live p.subscr := by
        have hpos : 0 < s.paging.count fun q => q.subscr == p.subscr := count_pos hp (beq_self_eq_true _)
        refine h.live ?_
        unfold holders
        omega
      have hlast := outlasts_subscrPut (s := { s with paging := s.paging.remove req }) (hcareful p hp hcbfn) hlive
      rw [pagingRemoveRequest_eq hp] at hremoved ⊢
      exact hremoved.subscrPagingDispatch hlast.1 false none
    next => exact hremoved
  next found cmd =>
    split at hs
    · cases hs
      exact h
    next i hfound =>
      cases hs
      exact (h.lookup hfound).operatorCmd cmd
  next =>
    cases hs
    exact h.purgeInactive
  next keep =>
    cases hs
    exact ⟨h.sound, h.counted, h.secured⟩
  next =>
    split at hs
    · cases hs
    next cont stack hstack =>
      cases hs
      refine h.resume hstack fun bts req i hcont => hcareful bts req i ?_
      rw [hstack, hcont]
      rfl
  next found pick callref =>
    cases hs
    exact h.mnccSetupReq found pick callref
  next t =>
    cases hs
    exact h.ccTxSetup t
  next t =>
    cases hs
    exact h.transFree t
  next c => exact h.sendSms c hs
  next i pick => exact h.sendSmsSubscr pick hs
  next c =>
    obtain ⟨conn, hc, rfl⟩ := Option.map_eq_some_iff.mp hs
    exact h.subscrPutChannel fun i hi => h.live_of_conn hc hi
  next found =>
    split at hs
    · cases hs
    next i hfound =>
      cases hs
      exact (h.lookup hfound).smsRef
  next i =>
    split at hs
    next hi =>
      cases hs
      exact h.smsDrop hi
    next => cases hs
  next i lac =>
    cases hs
    exact h.setLac i lac

end AccountsWith

variable {btsList : List PagingBts} {s : MscNet}

theorem accountsWith_init (btsList : List PagingBts) : AccountsWith [] { btsList := btsList } where
  sound := rfl
  counted := ⟨fun _ _ => nofun, fun _ _ => rfl⟩
  secured := fun _ _ _ => nofun

/-- **The references are accounted for** in every run whose steps are careful: the use count of a subscriber is the
    number of those who refer to it, and nobody refers to a subscriber that was freed. -/
theorem refsAccounted_of_careful (h : ReachableBy (netSystem btsList) MscNet.Careful s) : RefsAccounted s := by
  have hwith : AccountsWith [] s := by
    refine h.invariant (fun s hinit => ?_) fun s ev s' hs hcareful hstep => ?_
    · rw [hinit]
      exact accountsWith_init btsList
    · have hstep' : s.step ev = some s' := hstep
      unfold step at hstep'
      split at hstep'
      · cases hstep'
      · exact hs.handle hcareful hstep'
  exact ⟨hwith.sound, hwith.counted⟩

/-- A CM SERVICE REQUEST with a TMSI. -/
def servReqMsg : Gsm48Msg := { protoDiscr := 0x05, msgType := 0x24, mi := .tmsi 1, dataLen := 12, miLen := 5 }

/-- A LOCATION UPDATING REQUEST with an IMSI. -/
def locUpdMsg : Gsm48Msg := { protoDiscr := 0x05, msgType := 0x08, mi := .imsi [0, 0, 1] }

/-- A PAGING RESPONSE with a TMSI. -/
def pagRespMsg : Gsm48Msg := { protoDiscr := 0x06, msgType := 0x27, mi := .tmsi 1 }

/-- Two BTSs where the subscriber is paged. -/
def twoBts : List PagingBts := [⟨0, 1, true⟩, ⟨1, 1, true⟩]

/-- A short message waits for a subscriber. The first paging request expires, and the second is answered. -/
theorem refsAccounted_of_careful_paged :
    ∃ s : MscNet, s.useCount 0 = some 2 ∧ s.stack.length = 0 ∧ RefsAccounted s := by
  have hqueued : ReachableBy (netSystem twoBts) MscNet.Careful _ :=
    .step (l := .smsTake (.row 1)) (.init rfl) trivial rfl
  have hpaged : ReachableBy (netSystem twoBts) MscNet.Careful _ :=
    .step (l := .sendSmsSubscr 0 9) hqueued trivial rfl
  have hexpired : ReachableBy (netSystem twoBts) MscNet.Careful _ :=
    .step (l := .expired 0) hpaged
      (fun p hp _ => .inr fun r hr => by
        cases hp
        cases hr
        decide) rfl
  have hdispatched : ReachableBy (netSystem twoBts) MscNet.Careful _ :=
    .step (l := .ret) hexpired (fun _ _ _ hhead => nomatch hhead) rfl
  have hput : ReachableBy (netSystem twoBts) MscNet.Careful _ :=
    .step (l := .ret) hdispatched (fun _ _ _ hhead => nomatch hhead) rfl
  have hagain : ReachableBy (netSystem twoBts) MscNet.Careful _ :=
    .step (l := .sendSmsSubscr 0 9) hput trivial rfl
  have hconn : ReachableBy (netSystem twoBts) MscNet.Careful _ := .step (l := .newConn 0) hagain trivial rfl
  have hanswered : ReachableBy (netSystem twoBts) MscNet.Careful _ :=
    .step (l := .dtap 0 pagRespMsg { found := .active 0 }) hconn
      (fun _ _ _ => ⟨fun hkind => absurd hkind (by decide), fun hkind => absurd hkind (by decide)⟩) rfl
  have hcalled : ReachableBy (netSystem twoBts) MscNet.Careful _ :=
    .step (l := .ret) hanswered (fun _ _ _ hhead => nomatch hhead) rfl
  -- the request on the other BTS is stopped, and the short message and the connection are left
  have hstopped : ReachableBy (netSystem twoBts) MscNet.Careful _ :=
    .step (l := .ret) hcalled
      (fun bts req i hhead => by
        cases hhead
        refine ⟨⟨_, rfl, rfl, rfl⟩, .inr fun r hr => ?_⟩
        cases hr
        decide) rfl
  exact ⟨_, rfl, rfl, refsAccounted_of_careful hstopped⟩

/-- On a connection of a subscriber a location update names another one. -/
theorem not_refsAccounted_renamed : ¬ ∀ s, Reachable (netSystem []) s → RefsAccounted s := by
  intro h
  have hconn : Reachable (netSystem []) _ := .step (l := .newConn 0) (.init rfl) trivial rfl
  have hnamed : Reachable (netSystem []) _ :=
    .step (l := .dtap 0 servReqMsg { found := .row 1 }) hconn trivial rfl
  have hrenamed : Reachable (netSystem []) _ :=
    .step (l := .dtap 0 locUpdMsg { found := .row 1 }) hnamed trivial rfl
  exact absurd ((h _ hrenamed).counted.live 0 1 rfl) (by decide)

end OpenBsc.Libmsc

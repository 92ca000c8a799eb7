import OpenBsc.Libbsc.Handover

/-!
# `Libbsc.HandoverRuns` — channels and connections point to each other

In an orderly run a channel belongs to the one connection that has it, the channels of a connection are distinct, the
records of handovers are those from the first channel of a connection to its handover channel, and no handler follows a
pointer to nothing (`linked_of_orderly`). A run is orderly if

- an assignment is asked for when the connection has a channel and is not assigned one, and refused by the phone on the
  first channel only when it is assigned one;
- no assignment is completed during a handover;
- a handover starts from the first channel of a connection.
-/

namespace OpenBsc.Libbsc

open Transition Function Pool

/-! ## The channels of connections -/

namespace HoConn

/-- The channel is one of the connection's. -/
def Has (con : HoConn) (l : Nat) : Prop := con.lchan = some l ∨ con.secondaryLchan = some l ∨ con.hoLchan = some l

instance (con : HoConn) (l : Nat) : Decidable (con.Has l) := inferInstanceAs (Decidable (_ ∨ _))

/-- The connection is handed over as the record says. -/
def HandsOver (con : HoConn) (ho : BscHandover) : Prop :=
  con.lchan = some ho.oldLchan ∧ con.hoLchan = some ho.newLchan

/-- The channels of a connection are distinct, and there is a first one if there is another. -/
structure Sound (con : HoConn) : Prop where
  second : ∀ l, con.secondaryLchan = some l → con.lchan ≠ some l ∧ con.hoLchan ≠ some l ∧ con.lchan ≠ none
  third : ∀ l, con.hoLchan = some l → con.lchan ≠ some l ∧ con.lchan ≠ none

end HoConn

namespace HoNet

/-- The channels of a connection; one that is not there has none. -/
def channels (net : HoNet) (c : Nat) : HoConn := (net.conns.get? c).getD {}

/-- **Channels and connections point to each other**, and the handovers are those of the connections. -/
structure Linked (net : HoNet) : Prop where
  used : ∀ l c, net.conn l = some c → net.type l ≠ .none
  conn : ∀ l c, net.conn l = some c ↔ (net.channels c).Has l
  sound : ∀ c, (net.channels c).Sound
  records : ∀ ho, ho ∈ net.handovers ↔ ∃ c, (net.channels c).HandsOver ho
  once : net.handovers.Nodup

variable {net net' : HoNet} {c l : Nat} {con con' : HoConn} {ho : BscHandover}

attribute [local simp] setConn setType modifyConn delHandover lchanRelease update_apply

theorem channels_of_get (hget : net.conns.get? c = some con) : net.channels c = con := by simp [channels, hget]

theorem channels_modify (hget : net.conns.get? c = some con) (f : HoConn → HoConn) :
    (fun d => ((net.conns.modify c f).get? d).getD {}) = update net.channels c (f con) := by
  funext d
  rw [get?_modify]
  by_cases hd : d = c
  · rw [hd, if_pos rfl, hget, update_self]
    rfl
  · rw [if_neg hd, update_of_ne hd]
    rfl

theorem releaseIf_eq (net : HoNet) (o : Option Nat) :
    net.releaseIf o = { net with conn := fun l => if o = some l then none else net.conn l } := by
  cases o with
  | none => rfl
  | some k => simp [releaseIf, funext_iff, eq_comm]

theorem Linked.eq_of_has (h : net.Linked) {d : Nat} (hc : (net.channels c).Has l)
    (hd : (net.channels d).Has l) : d = c :=
  Option.some.inj (((h.conn l d).mpr hd).symm.trans ((h.conn l c).mpr hc))

theorem Linked.free (h : net.Linked) (htype : net.type l = .none) : net.conn l = none :=
  Option.eq_none_iff_forall_not_mem.mpr fun c hc => h.used l c hc htype

/-- What a channel points to is there. -/
theorem Linked.get (h : net.Linked) (hconn : net.conn l = some c) :
    ∃ con, net.conns.get? c = some con ∧ con.Has l := by
  have hhas := (h.conn l c).mp hconn
  unfold channels at hhas
  cases hget : net.conns.get? c with
  | none => simp [hget, HoConn.Has] at hhas
  | some con => exact ⟨con, rfl, by simpa [hget] using hhas⟩

theorem Linked.record (h : net.Linked) {new : Nat} (hnew : (net.channels c).hoLchan = some new) :
    ∃ ho, net.bscHoByNewLchan new = some ho ∧ (net.channels c).HandsOver ho := by
  obtain ⟨old, hold⟩ := Option.ne_none_iff_exists'.mp ((h.sound c).third new hnew).2
  have hmem := (h.records ⟨old, new⟩).mpr ⟨c, hold, hnew⟩
  cases hfind : net.bscHoByNewLchan new with
  | none => exact absurd (List.find?_eq_none.mp hfind _ hmem) (by simp)
  | some found =>
    obtain rfl : found.newLchan = new := by simpa using List.find?_some hfind
    obtain ⟨d, hd⟩ := (h.records found).mp (List.mem_of_find?_eq_some hfind)
    obtain rfl := h.eq_of_has (.inr (.inr hnew)) (.inr (.inr hd.2))
    exact ⟨found, rfl, hd⟩

/-! ## One connection changes -/

/-- **A connection may give up channels, and take some that belong to nobody.** -/
theorem Linked.becomes (h : net.Linked) (hchan : net'.channels = update net.channels c con)
    (hconn : ∀ l, net'.conn l = if con.Has l then some c else if (net.channels c).Has l then none else net.conn l)
    (htype : ∀ l, net'.type l = net.type l ∨ net'.type l ≠ .none) (hsound : con.Sound)
    (htakes : ∀ l, con.Has l → (net.channels c).Has l ∨ net.conn l = none ∧ net'.type l ≠ .none)
    (hrec : ∀ ho, ho ∈ net'.handovers ↔ con.HandsOver ho ∨ ho ∈ net.handovers ∧ ¬ (net.channels c).HandsOver ho)
    (honce : net'.handovers.Nodup) : net'.Linked := by
  have hchan (d : Nat) : net'.channels d = if d = c then con else net.channels d := by rw [hchan, update_apply]
  refine ⟨fun l d hl => ?_, fun l d => ?_, fun d => ?_, fun ho => ?_, honce⟩
  · rcases htype l with hsame | hused
    · rw [hconn] at hl
      rw [hsame]
      split at hl
      case isTrue hnew =>
        rcases htakes l hnew with hold | ⟨-, hused⟩
        · exact h.used l c ((h.conn l c).mpr hold)
        · exact hsame ▸ hused
      case isFalse =>
        split at hl
        · cases hl
        · exact h.used l d hl
    · exact hused
  · rw [hconn, hchan]
    by_cases hnew : con.Has l
    · rw [if_pos hnew]
      by_cases hd : d = c
      · rw [if_pos hd]
        exact iff_of_true (congrArg some hd.symm) hnew
      · -- what was taken is nobody else's
        rw [if_neg hd]
        refine iff_of_false (fun heq => hd (Option.some.inj heq).symm) fun hhas => ?_
        rcases htakes l hnew with hold | ⟨hnone, -⟩
        · exact hd (h.eq_of_has hold hhas)
        · exact nomatch hnone.symm.trans ((h.conn l d).mpr hhas)
    · rw [if_neg hnew]
      by_cases hold : (net.channels c).Has l
      · rw [if_pos hold]
        refine iff_of_false nofun fun hhas => ?_
        split at hhas
        case isTrue => exact hnew hhas
        case isFalse hd => exact hd (h.eq_of_has hold hhas)
      · rw [if_neg hold]
        by_cases hd : d = c
        · rw [hd, if_pos rfl]
          exact iff_of_false (fun heq => hold ((h.conn l c).mp heq)) hnew
        · rw [if_neg hd]
          exact h.conn l d
  · rw [hchan]
    split
    · exact hsound
    · exact h.sound d
  · rw [hrec, h.records]
    constructor
    · rintro (hnew | ⟨⟨d, hd⟩, hother⟩)
      · exact ⟨c, by rwa [hchan, if_pos rfl]⟩
      · have hdc : d ≠ c := fun heq => hother (heq ▸ hd)
        exact ⟨d, by rwa [hchan, if_neg hdc]⟩
    · rintro ⟨d, hd⟩
      rw [hchan] at hd
      split at hd
      · exact .inl hd
      · rename_i hdc
        exact .inr ⟨⟨d, hd⟩, fun hc => hdc (h.eq_of_has (.inr (.inr hc.2)) (.inr (.inr hd.2)))⟩

theorem Linked.records_same (h : net.Linked) (hsame : net'.handovers = net.handovers)
    (hho : ∀ ho, con.HandsOver ho ↔ (net.channels c).HandsOver ho) (ho : BscHandover) :
    ho ∈ net'.handovers ↔ con.HandsOver ho ∨ ho ∈ net.handovers ∧ ¬ (net.channels c).HandsOver ho := by
  rw [hsame, hho]
  have hmem : (net.channels c).HandsOver ho → ho ∈ net.handovers := fun hc => (h.records ho).mpr ⟨c, hc⟩
  tauto

/-- **A connection may give up channels**, and its handover with the new one. -/
theorem Linked.shrinks (h : net.Linked) (hcon : net.channels c = con)
    (hchan : net'.channels = update net.channels c con')
    (hconn : ∀ l, net'.conn l = if con.Has l ∧ ¬ con'.Has l then none else net.conn l) (htype : net'.type = net.type)
    (hsound : con'.Sound) (hhas : ∀ l, con'.Has l → con.Has l)
    (hrec : net'.handovers = net.handovers ∧ (∀ ho, con'.HandsOver ho ↔ con.HandsOver ho) ∨
      ∃ ho, con.HandsOver ho ∧ con'.hoLchan = none ∧ net'.handovers = net.handovers.erase ho) : net'.Linked := by
  subst hcon
  refine h.becomes hchan (fun l => ?_) (fun l => .inl (congrFun htype l)) hsound (fun l hl => .inl (hhas l hl)) ?_ ?_
  · rw [hconn]
    grind [h.conn l c]
  · rcases hrec with ⟨hsame, hho⟩ | ⟨ho, hho, hnone, hsame⟩
    · exact h.records_same hsame hho
    · intro ho'
      rw [hsame, h.once.mem_erase_iff]
      have hsome : ¬ con'.HandsOver ho' := fun hc => nomatch hnone.symm.trans hc.2
      have heq : (net.channels c).HandsOver ho' ↔ ho' = ho := by
        obtain ⟨old, new⟩ := ho
        obtain ⟨old', new'⟩ := ho'
        simp [HoConn.HandsOver, hho.1, hho.2, eq_comm] at *
      rw [heq]
      tauto
  · rcases hrec with ⟨hsame, -⟩ | ⟨ho, -, -, hsame⟩
    · exact hsame ▸ h.once
    · exact hsame ▸ h.once.erase ho

/-- **A connection may take a channel that was free.** -/
theorem Linked.grows (h : net.Linked) (hchan : net'.channels = update net.channels c con') (hfree : net.conn l = none)
    (hconn : net'.conn = update net.conn l (some c)) {type : GsmChan} (htype : net'.type = update net.type l type)
    (hused : type ≠ .none) (hsound : con'.Sound) (hhas : ∀ j, con'.Has j ↔ j = l ∨ (net.channels c).Has j)
    (hrec : ∀ ho, ho ∈ net'.handovers ↔ con'.HandsOver ho ∨ ho ∈ net.handovers ∧ ¬ (net.channels c).HandsOver ho)
    (honce : net'.handovers.Nodup) : net'.Linked := by
  refine h.becomes hchan (fun j => ?_) (fun j => ?_) hsound (fun j hj => ?_) hrec honce
  · rw [hconn, update_apply]
    grind [h.conn j c, hhas j]
  · rw [htype, update_apply]
    split
    · exact .inr hused
    · exact .inl rfl
  · rcases (hhas j).mp hj with rfl | hold
    · rw [htype, update_self]
      exact .inr ⟨hfree, hused⟩
    · exact .inl hold

theorem HoConn.has_second (hnone : con.secondaryLchan = none) (new j : Nat) :
    HoConn.Has { con with secondaryLchan := some new } j ↔ j = new ∨ con.Has j := by
  unfold HoConn.Has
  rw [hnone]
  simp only [Option.some.injEq, reduceCtorEq, false_or, eq_comm]
  exact or_left_comm

theorem HoConn.has_third (hnone : con.hoLchan = none) (new j : Nat) :
    HoConn.Has { con with hoLchan := some new } j ↔ j = new ∨ con.Has j := by
  unfold HoConn.Has
  rw [hnone]
  simp only [Option.some.injEq, reduceCtorEq, or_false, eq_comm]
  rw [← or_assoc, or_comm]

/-- The handler has a result, and channels and connections are linked in it. -/
def Keeps (result : Option HoNet) : Prop := ∃ net', result = some net' ∧ net'.Linked

/-! ## Assignments -/

section

variable (h : net.Linked) (hget : net.conns.get? c = some con)

include h hget

theorem Linked.dropSecond (hchan : net'.channels = update net.channels c { con with secondaryLchan := none })
    (hconn : ∀ l, net'.conn l = if con.secondaryLchan = some l then none else net.conn l)
    (htype : net'.type = net.type) (hsame : net'.handovers = net.handovers) : net'.Linked := by
  have hs := channels_of_get hget ▸ h.sound c
  refine h.shrinks (channels_of_get hget) hchan (fun l => ?_) htype ⟨nofun, hs.third⟩
    (fun l hl => ?_) (.inl ⟨hsame, fun ho => .rfl⟩)
  · rw [hconn]
    grind [HoConn.Has, hs.second l]
  · grind [HoConn.Has]

theorem linked_assignmentT10Timeout :
    Keeps (net.assignmentT10Timeout c) := by
  unfold assignmentT10Timeout
  rw [hget, Option.map_some, releaseIf_eq]
  exact ⟨_, rfl, h.dropSecond hget (channels_modify hget _) (fun _ => rfl) rfl rfl⟩

theorem linked_handleAssFail
    (hsecond : con.lchan = some l → con.secondaryLchan ≠ none) : Keeps (net.handleAssFail c l) := by
  unfold handleAssFail
  rw [hget]
  dsimp only
  split
  · exact ⟨net, rfl, h⟩
  · rename_i hprimary
    obtain ⟨second, hsec⟩ := Option.ne_none_iff_exists'.mp (hsecond (not_not.mp hprimary))
    rw [hsec]
    exact ⟨_, rfl, h.dropSecond hget (channels_modify hget _) (fun k => by simp [hsec, eq_comm]) rfl rfl⟩

theorem linked_handleChanNack : Keeps (net.handleChanNack c l) := by
  unfold handleChanNack
  rw [hget, Option.map_some]
  refine ⟨_, rfl, ?_⟩
  split
  · rename_i hsec
    exact h.dropSecond hget (channels_modify hget _) (fun k => by simp [hsec, eq_comm]) rfl rfl
  · exact h

/-- The second channel becomes the first one. -/
theorem linked_handleAssCompl {valid : Bool}
    (hnone : con.secondaryLchan = some l → con.hoLchan = none) : Keeps (net.handleAssCompl c l valid) := by
  unfold handleAssCompl
  rw [hget]
  dsimp only
  split
  · exact ⟨net, rfl, h⟩
  · rename_i hcompl
    have hsec := not_not.mp (not_or.mp hcompl).1
    have hho := hnone hsec
    have hs := (channels_of_get hget ▸ h.sound c).second l hsec
    obtain ⟨old, hold⟩ := Option.ne_none_iff_exists'.mp hs.2.2
    rw [hold]
    refine ⟨_, rfl, h.shrinks (channels_of_get hget) (channels_modify hget _) (fun k => ?_) rfl
      ⟨nofun, by simp [hho]⟩ (fun k hk => ?_) (.inl ⟨rfl, fun ho => by simp [HoConn.HandsOver, hho]⟩)⟩
    · simp only [setConn, modifyConn, lchanRelease, update_apply]
      grind [HoConn.Has]
    · grind [HoConn.Has]

theorem linked_gsm0808AssignReq (hprimary : con.lchan ≠ none)
    (hnone : con.secondaryLchan = none) {found : Option (Nat × GsmChan)} (hfinds : net.Finds found) {activates : Bool} :
    Keeps (net.gsm0808AssignReq c found activates) := by
  obtain ⟨first, hfirst⟩ := Option.ne_none_iff_exists'.mp hprimary
  have hcon := channels_of_get hget
  have hs := hcon ▸ h.sound c
  unfold gsm0808AssignReq
  rw [hget, Option.bind_some, hfirst]
  dsimp only
  split
  · split
    · exact ⟨net, rfl, h⟩
    · rename_i new type
      obtain ⟨hfree, hused⟩ := hfinds new type rfl
      have hnew := h.free hfree
      have hnot : ¬ con.Has new := fun hhas => nomatch hnew.symm.trans ((h.conn new c).mpr (hcon ▸ hhas))
      split
      · refine ⟨_, rfl, h.grows (channels_modify hget _) hnew rfl rfl hused
          ⟨fun l hl => ?_, hs.third⟩ (fun j => hcon ▸ HoConn.has_second hnone new j)
          (h.records_same rfl fun ho => by rw [hcon]; rfl) h.once⟩
        cases hl
        exact ⟨fun heq => hnot (.inl heq), fun heq => hnot (.inr (.inr heq)), hprimary⟩
      · exact ⟨net, rfl, h⟩
  · exact ⟨net, rfl, h⟩

end

/-! ## Handovers -/

section

variable (h : net.Linked)

include h

/-- The record that a search finds is that of a connection. -/
theorem Linked.found (hmem : ho ∈ net.handovers) :
    ∃ c con, net.conns.get? c = some con ∧ con.HandsOver ho ∧ net.connOf ho.oldLchan = some (c, con) ∧
      net.connOf ho.newLchan = some (c, con) := by
  obtain ⟨c, hc⟩ := (h.records ho).mp hmem
  have hold := (h.conn _ c).mpr (.inl hc.1)
  have hnew := (h.conn _ c).mpr (.inr (.inr hc.2))
  obtain ⟨con, hget, -⟩ := h.get hold
  exact ⟨c, con, hget, channels_of_get hget ▸ hc, by simp [connOf, hold, hget], by simp [connOf, hnew, hget]⟩

theorem Linked.dropHandover (hget : net.conns.get? c = some con) (hho : con.HandsOver ho) :
    (((net.lchanRelease ho.newLchan).modifyConn c fun con => { con with hoLchan := none }).delHandover ho).Linked := by
  have hs := channels_of_get hget ▸ h.sound c
  have hthird := hs.third _ hho.2
  have hsec := hs.second ho.newLchan
  have hnew := hho.2
  refine h.shrinks (channels_of_get hget) (channels_modify hget _) (fun l => ?_) rfl
    ⟨fun l hl => ?_, nofun⟩ (fun l hl => ?_) (.inr ⟨ho, hho, rfl, rfl⟩)
  · simp only [setConn, modifyConn, lchanRelease, delHandover, update_apply]
    grind [HoConn.Has]
  · exact ⟨(hs.second l hl).1, nofun, (hs.second l hl).2.2⟩
  · grind [HoConn.Has]

theorem linked_giveUpHandover (hmem : ho ∈ net.handovers) : Keeps (net.giveUpHandover ho) := by
  obtain ⟨c, con, hget, hho, -, hconn⟩ := h.found hmem
  unfold giveUpHandover
  rw [hconn]
  exact ⟨_, rfl, h.dropHandover hget hho⟩

theorem linked_elim {p : BscHandover → Bool} :
    Keeps ((net.handovers.find? p).elim (some net) net.giveUpHandover) := by
  cases hfind : net.handovers.find? p with
  | none => exact ⟨net, rfl, h⟩
  | some ho => exact linked_giveUpHandover h (List.mem_of_find?_eq_some hfind)

theorem linked_hoGsm48HoCompl : Keeps (net.hoGsm48HoCompl l) := by
  unfold hoGsm48HoCompl
  cases hfind : net.bscHoByNewLchan l with
  | none => exact ⟨net, rfl, h⟩
  | some ho =>
    obtain rfl : ho.newLchan = l := by simpa using List.find?_some hfind
    obtain ⟨c, con, hget, hho, hconnOld, hconnNew⟩ := h.found (List.mem_of_find?_eq_some hfind)
    have hs := channels_of_get hget ▸ h.sound c
    have hthird := hs.third _ hho.2
    have hsec := hs.second
    obtain ⟨hold, hnew⟩ := id hho
    dsimp only
    rw [hconnOld, hconnNew]
    refine ⟨_, rfl, h.shrinks (channels_of_get hget) (channels_modify hget _) (fun k => ?_) rfl
      ⟨fun k hk => ⟨fun heq => (hsec k hk).2.1 (hnew.trans heq), nofun, nofun⟩, nofun⟩ (fun k hk => ?_)
      (.inr ⟨ho, hho, rfl, rfl⟩)⟩
    · simp only [setConn, modifyConn, lchanRelease, delHandover, update_apply]
      grind [HoConn.Has]
    · grind [HoConn.Has]

theorem linked_bscHandoverStart {old : Nat} {found : Option (Nat × GsmChan)} (hfinds : net.Finds found)
    (hprimary : ∀ c, net.conn old = some c → (net.channels c).lchan = some old) {activates : Bool} :
    Keeps (net.bscHandoverStart old found activates) := by
  unfold bscHandoverStart
  split
  · exact ⟨net, rfl, h⟩
  · rename_i hstart
    rw [Bool.or_eq_true, not_or] at hstart
    obtain ⟨hnone, hconn⟩ := hstart
    obtain ⟨c, hc⟩ := Option.ne_none_iff_exists'.mp fun hnil => hconn (Option.isNone_iff_eq_none.mpr hnil)
    obtain ⟨con, hget, -⟩ := h.get hc
    have hof : net.connOf old = some (c, con) := by simp [connOf, hc, hget]
    have hcon := channels_of_get hget
    have hfirst := hcon ▸ hprimary c hc
    have hs := hcon ▸ h.sound c
    -- a handover of the connection would be from this channel
    have hho : con.hoLchan = none := by
      by_contra hne
      obtain ⟨l, hl⟩ := Option.ne_none_iff_exists'.mp hne
      have hmem := (h.records ⟨old, l⟩).mpr ⟨c, by rw [hcon]; exact ⟨hfirst, hl⟩⟩
      exact hnone (List.find?_isSome.mpr ⟨_, hmem, by simp⟩)
    cases found with
    | none => exact ⟨net, rfl, h⟩
    | some found =>
      obtain ⟨new, type⟩ := found
      obtain ⟨hfree, hused⟩ := hfinds new type rfl
      have hnew := h.free hfree
      have hnot : ¬ con.Has new := fun hhas => nomatch hnew.symm.trans ((h.conn new c).mpr (hcon ▸ hhas))
      have hfresh : (⟨old, new⟩ : BscHandover) ∉ net.handovers := fun hmem =>
        hnone (List.find?_isSome.mpr ⟨_, hmem, by simp⟩)
      rw [hof]
      dsimp only
      split
      · refine ⟨_, rfl, h.grows (channels_modify hget _) hnew rfl rfl hused
          ⟨fun l hl => ?_, fun l hl => ?_⟩ (fun j => hcon ▸ HoConn.has_third hho new j) (fun ho => ?_)
          (List.nodup_cons.mpr ⟨hfresh, h.once⟩)⟩
        · refine ⟨(hs.second l hl).1, fun heq => ?_, (hs.second l hl).2.2⟩
          cases heq
          exact hnot (.inr (.inl hl))
        · cases hl
          exact ⟨fun heq => hnot (.inl heq), fun heq => nomatch hfirst.symm.trans heq⟩
        · obtain ⟨old', new'⟩ := ho
          simp [hcon, HoConn.HandsOver, hfirst, hho, eq_comm]
      · refine ⟨_, rfl, h.shrinks hcon (channels_modify hget _) (fun k => ?_) rfl ⟨fun l hl => ?_, nofun⟩
          (fun k hk => ?_) (.inl ⟨rfl, fun ho => by simp [HoConn.HandsOver, hho]⟩)⟩
        · simp only [setConn, modifyConn, update_apply]
          grind [HoConn.Has]
        · exact ⟨(hs.second l hl).1, nofun, (hs.second l hl).2.2⟩
        · grind [HoConn.Has]

end

/-! ## Connections -/

theorem Linked.congr (h : net.Linked) (hchan : net'.channels = net.channels) (hconn : net'.conn = net.conn)
    (htype : ∀ l, net.conn l ≠ none → net'.type l = net.type l) (hsame : net'.handovers = net.handovers) :
    net'.Linked where
  used l c hl := by
    rw [hconn] at hl
    rw [htype l (by simp [hl])]
    exact h.used l c hl
  conn := by rw [hconn, hchan]; exact h.conn
  sound := by rw [hchan]; exact h.sound
  records := by rw [hsame, hchan]; exact h.records
  once := by rw [hsame]; exact h.once

/-- The network when the connection has been cleared. -/
def cleared (net : HoNet) (c : Nat) (con : HoConn) : HoNet where
  type := net.type
  conn l := if con.Has l then none else net.conn l
  conns := net.conns.modify c fun _ => {}
  handovers := (con.hoLchan.bind net.bscHoByNewLchan).elim net.handovers net.handovers.erase

theorem gsm0808Clear_eq (hget : net.conns.get? c = some con)
    (hfound : ∀ new, con.hoLchan = some new → ∃ ho, net.bscHoByNewLchan new = some ho) :
    net.gsm0808Clear c = some (net.cleared c con) := by
  unfold gsm0808Clear cleared
  rw [hget]
  cases hthird : con.hoLchan with
  | none =>
    simp [hthird, releaseIf_eq, HoConn.Has]
    funext l
    by_cases hfirst : con.lchan = some l <;> by_cases hsec : con.secondaryLchan = some l <;> simp [hfirst, hsec]
  | some new =>
    obtain ⟨ho, hfind⟩ := hfound new hthird
    obtain rfl : ho.newLchan = new := by simpa using List.find?_some hfind
    simp [hthird, bscClearHandover, hget, hfind, releaseIf_eq, HoConn.Has, modify_modify]
    funext l
    by_cases hfirst : con.lchan = some l <;> by_cases hsec : con.secondaryLchan = some l <;>
      simp [hfirst, hsec, eq_comm]

section

variable (h : net.Linked)

include h

section

variable (hget : net.conns.get? c = some con)

include hget

theorem Linked.findable (new : Nat)
    (hnew : con.hoLchan = some new) : ∃ ho, net.bscHoByNewLchan new = some ho :=
  (h.record (channels_of_get hget ▸ hnew)).imp fun _ => And.left

/-- Nor is there a difference if a channel but for that of the handover was taken from the connection before. -/
theorem gsm0808Clear_drop {f : HoConn → HoConn}
    (hhas : ∀ k, con.Has k ↔ k = l ∨ (f con).Has k) (hho : (f con).hoLchan = con.hoLchan) :
    ((net.modifyConn c f).setConn l none).gsm0808Clear c = some (net.cleared c con) := by
  rw [gsm0808Clear_eq (get?_modify_self hget) (hho ▸ h.findable hget)]
  simp only [cleared, hho, modifyConn, setConn, modify_modify]
  congr 2
  funext k
  grind [update_apply]

theorem linked_cleared : (net.cleared c con).Linked := by
  have hcon := channels_of_get hget
  refine h.shrinks hcon (channels_modify hget _) (fun l => by simp [cleared, HoConn.Has]; rfl) rfl ⟨nofun, nofun⟩
    nofun ?_
  cases hho : con.hoLchan with
  | none => exact .inl ⟨by simp [cleared, hho], fun ho => by simp [HoConn.HandsOver, hho]⟩
  | some new =>
    obtain ⟨ho, hfind, hhands⟩ := h.record (hcon ▸ hho)
    exact .inr ⟨ho, hcon ▸ hhands, rfl, by simp [cleared, hho, hfind]⟩

end

theorem linked_subscrConFree (hget : net.conns.get? c = some {}) :
    ∃ net', net.subscrConFree c = some net' ∧ net'.Linked ∧ net'.conn = net.conn := by
  unfold subscrConFree
  rw [hget]
  refine ⟨_, rfl, h.congr (funext fun d => ?_) rfl (fun _ _ => rfl) rfl, rfl⟩
  simp only [channels, get?_remove]
  split
  · rename_i hdc
    rw [hdc, hget]
    rfl
  · rfl

theorem linked_clear (hget : net.conns.get? c = some con) (destruct : Bool) :
    ∃ net', (if destruct then (net.cleared c con).subscrConFree c else some (net.cleared c con)) = some net' ∧
      net'.Linked ∧ ∀ l, con.Has l → net'.conn l = none := by
  have hlinked := linked_cleared h hget
  have hnone (l : Nat) (hl : con.Has l) : (net.cleared c con).conn l = none := if_pos hl
  cases destruct with
  | false => exact ⟨_, rfl, hlinked, hnone⟩
  | true =>
    obtain ⟨net', hfree, hlinked', hsame⟩ := linked_subscrConFree hlinked (get?_modify_self hget)
    exact ⟨net', hfree, hlinked', hsame ▸ hnone⟩

theorem handleRelease_eq (hget : net.conns.get? c = some con) (hhas : con.Has l) (destruct : Bool) :
    net.handleRelease c l destruct =
      if destruct then (net.cleared c con).subscrConFree c else some (net.cleared c con) := by
  have hs := channels_of_get hget ▸ h.sound c
  have hsecond := hs.second l
  have hthird := hs.third l
  unfold handleRelease
  rw [hget, Option.bind_some]
  rcases id hhas with hl | hl | hl
  · have hnone₂ : con.secondaryLchan ≠ some l := fun hl₂ => (hsecond hl₂).1 hl
    have hnone₃ : con.hoLchan ≠ some l := fun hl₃ => (hthird hl₃).1 hl
    simp only [if_pos hl, if_neg hnone₂, if_neg hnone₃, Option.bind_some]
    rw [gsm0808Clear_drop h hget ?_ rfl, Option.bind_some]
    grind [HoConn.Has]
  · obtain ⟨hnone₁, hnone₃, -⟩ := hsecond hl
    simp only [if_pos hl, if_neg hnone₁, if_neg hnone₃, Option.bind_some]
    rw [gsm0808Clear_drop h hget ?_ rfl, Option.bind_some]
    grind [HoConn.Has]
  · have hnone₁ := (hthird hl).1
    have hnone₂ : con.secondaryLchan ≠ some l := fun hl₂ => (hsecond hl₂).2.1 hl
    obtain ⟨ho, hfind⟩ := h.findable hget l hl
    obtain rfl : ho.newLchan = l := by simpa using List.find?_some hfind
    simp only [if_neg hnone₁, if_neg hnone₂, bscClearHandover, hget, hl, Option.map_some, Option.bind_some,
      hfind, if_true,
      delHandover, modifyConn, modify_modify, lchanRelease, setConn]
    rw [@gsm0808Clear_eq _ c { con with hoLchan := none } (get?_modify_self hget) nofun, Option.bind_some]
    have hconn (k : Nat) : (if HoConn.Has { con with hoLchan := none } k then none
        else update net.conn ho.newLchan none k) = if con.Has k then none else net.conn k := by
      rw [update_apply]
      grind [HoConn.Has]
    simp only [cleared, hl, Option.bind_some, hfind, modify_modify, update_idem, hconn]
    rfl

/-- A channel is free of its connection, whoever that was, and free for the next one. -/
theorem linked_lchanFree (l : Nat) (destruct : Bool) : Keeps (net.lchanFree l destruct) := by
  suffices hreleased : ∃ net', (net.conn l).elim (some net) (fun c => net.handleRelease c l destruct) = some net' ∧
      net'.Linked ∧ net'.conn l = none by
    obtain ⟨net', heq, hlinked, hnone⟩ := hreleased
    unfold lchanFree
    rw [heq]
    refine ⟨_, rfl, hlinked.congr rfl (update_eq_self_iff.mpr hnone.symm) (fun k hk => update_of_ne ?_ _ _) rfl⟩
    rintro rfl
    exact hk hnone
  cases hconn : net.conn l with
  | none => exact ⟨net, rfl, h, hconn⟩
  | some c =>
    obtain ⟨con, hget, hhas⟩ := h.get hconn
    obtain ⟨net', heq, hlinked, hnone⟩ := linked_clear h hget destruct
    exact ⟨net', (handleRelease_eq h hget hhas destruct).trans heq, hlinked, hnone l hhas⟩

/-- What is handled for the connection of a channel, if it has one. -/
theorem linked_ofConn {f : Nat → Option HoNet}
    (hf : ∀ c con, net.conn l = some c → net.conns.get? c = some con → Keeps (f c)) :
    Keeps ((net.conn l).elim (some net) f) := by
  cases hconn : net.conn l with
  | none => exact ⟨net, rfl, h⟩
  | some c =>
    obtain ⟨con, hget, -⟩ := h.get hconn
    exact hf c con hconn hget

theorem linked_chanActNack (l : Nat) (destruct : Bool) : Keeps (net.chanActNack l destruct) := by
  obtain ⟨net₁, heq₁, h₁⟩ := linked_ofConn (l := l) h fun c con _ hget => linked_handleChanNack (l := l) h hget
  obtain ⟨net₂, heq₂, h₂⟩ : Keeps (net₁.hoChanActivNack l) := linked_elim h₁
  obtain ⟨net₃, heq₃, h₃⟩ := linked_lchanFree h₂ l destruct
  exact ⟨net₃, by simp [chanActNack, heq₁, heq₂, heq₃], h₃⟩

theorem linked_handleChanAck (hget : net.conns.get? c = some con) : Keeps (net.handleChanAck c l) := by
  unfold handleChanAck
  rw [hget]
  dsimp only
  split
  · rename_i hsec
    obtain ⟨first, hfirst⟩ :=
      Option.ne_none_iff_exists'.mp ((channels_of_get hget ▸ h.sound c).second l hsec).2.2
    exact ⟨net, by rw [hfirst]; rfl, h⟩
  · exact ⟨net, rfl, h⟩

/-- A connection is made for a channel that has none. -/
theorem linked_firstMessage (hused : net.type l ≠ .none) (hnone : net.conn l = none) (accepted : Bool) :
    (net.firstMessage l accepted).Linked := by
  have hfresh : net.channels net.conns.next = {} := by
    cases hget : net.conns.get? net.conns.next with
    | none => simp [channels, hget]
    | some con => exact absurd (get?_lt hget) (Nat.lt_irrefl _)
  cases accepted with
  | true =>
    have hchan : (net.firstMessage l true).channels = update net.channels net.conns.next { lchan := some l } := by
      funext d
      simp only [firstMessage, channels, if_true, setConn, get?_alloc, update_apply]
      split <;> rfl
    refine h.grows hchan hnone rfl (update_eq_self l net.type).symm hused ⟨nofun, nofun⟩ (fun j => ?_)
      (h.records_same rfl fun ho => ?_) h.once
    · simp [hfresh, HoConn.Has, eq_comm]
    · simp [hfresh, HoConn.HandsOver]
  | false =>
    refine h.congr (funext fun d => ?_) (update_eq_self_iff.mpr hnone.symm) (fun _ _ => rfl) rfl
    simp [firstMessage, channels, get?_alloc_remove]

end

/-! ## Runs -/

/-- What an orderly run asks of the connection of a channel. -/
def Orderly (net : HoNet) : HoEvent → Prop
  | .assignReq c _ _ => (net.channels c).lchan ≠ none ∧ (net.channels c).secondaryLchan = none
  | .assCompl l _ => ∀ c, net.conn l = some c → (net.channels c).secondaryLchan = some l →
      (net.channels c).hoLchan = none
  | .assFail l => ∀ c, net.conn l = some c → (net.channels c).lchan = some l → (net.channels c).secondaryLchan ≠ none
  | .handover old _ _ => ∀ c, net.conn old = some c → (net.channels c).lchan = some old
  | _ => True

theorem linked_handle (h : net.Linked) {ev : HoEvent} (hpossible : net.Possible ev) (horderly : net.Orderly ev) :
    Keeps (net.handle ev) := by
  cases ev with
  | alloc l type =>
    have hfree := h.free (hpossible l type rfl).1
    exact ⟨_, rfl, h.congr rfl rfl (fun k hk => update_of_ne (by rintro rfl; exact hk hfree) _ _) rfl⟩
  | firstMessage l accepted => exact ⟨_, rfl, linked_firstMessage h hpossible.1 hpossible.2 accepted⟩
  | assignReq c found activates =>
    obtain ⟨con, hget⟩ := Option.isSome_iff_exists.mp hpossible.1
    obtain ⟨hfirst, hsecond⟩ : con.lchan ≠ none ∧ con.secondaryLchan = none := channels_of_get hget ▸ id horderly
    exact linked_gsm0808AssignReq h hget hfirst hsecond hpossible.2
  | assCompl l valid =>
    exact linked_ofConn h fun c con hconn hget =>
      linked_handleAssCompl h hget (channels_of_get hget ▸ horderly c hconn)
  | assFail l =>
    exact linked_ofConn h fun c con hconn hget => linked_handleAssFail h hget (channels_of_get hget ▸ horderly c hconn)
  | t10 c =>
    obtain ⟨con, hget⟩ := Option.isSome_iff_exists.mp hpossible
    exact linked_assignmentT10Timeout h hget
  | handover old found activates => exact linked_bscHandoverStart h hpossible horderly
  | hoCompl new => exact linked_hoGsm48HoCompl h
  | hoFail old => exact linked_elim h
  | t3103 ho => exact linked_giveUpHandover h hpossible
  | chanActAck l => exact linked_ofConn h fun c con _ hget => linked_handleChanAck h hget
  | chanActNack l destruct => exact linked_chanActNack h l destruct
  | lchanFree l destruct => exact linked_lchanFree h l destruct
  | clear c =>
    obtain ⟨con, hget⟩ := Option.isSome_iff_exists.mp hpossible
    obtain ⟨net', heq, hlinked, -⟩ := linked_clear h hget true
    exact ⟨net', by rw [handle, gsm0808Clear_eq hget (h.findable hget)]; exact heq, hlinked⟩

/-- **Channels and connections point to each other** in every orderly run, and no handler follows a pointer to
    nothing. -/
theorem linked_of_orderly (h : ReachableBy hoSystem Orderly net) :
    net.Linked ∧ ∀ ev, net.Possible ev → net.Orderly ev → (net.handle ev).isSome := by
  have hlinked : net.Linked := by
    refine h.invariant ?_ ?_
    · rintro net rfl
      exact ⟨nofun, fun l c => by simp [channels, HoConn.Has], fun c => ⟨nofun, nofun⟩,
        fun ho => by simp [channels, HoConn.HandsOver], .nil⟩
    · rintro net ev net' hnet horderly ⟨hpossible, hstep⟩
      obtain ⟨net'', hresult, hlinked⟩ := linked_handle hnet hpossible horderly
      cases hstep.symm.trans hresult
      exact hlinked
  refine ⟨hlinked, fun ev hpossible horderly => ?_⟩
  obtain ⟨net', hresult, -⟩ := linked_handle hlinked hpossible horderly
  exact hresult ▸ rfl

/-- A phone has got a channel. -/
def onePhone : HoNet := (setType {} 0 .tchF).firstMessage 0 true

/-- It is handed over. -/
theorem linked_of_orderly_handover : ∃ net : HoNet, net.handovers = [⟨0, 1⟩] ∧
    net.Linked ∧ ∀ ev, net.Possible ev → net.Orderly ev → (net.handle ev).isSome := by
  have hphone : ReachableBy hoSystem Orderly onePhone := by
    refine .step (l := .firstMessage 0 true) (.step (l := .alloc 0 .tchF) (.init rfl) trivial ⟨?_, rfl⟩) trivial
      ⟨⟨nofun, rfl⟩, rfl⟩
    rintro l type ⟨⟩
    exact ⟨rfl, nofun⟩
  refine ⟨_, ?_, linked_of_orderly (.step (l := .handover 0 (some (1, .tchF)) true) hphone ?_ ⟨?_, rfl⟩)⟩
  · rfl
  · rintro c ⟨⟩
    rfl
  · rintro l type ⟨⟩
    exact ⟨rfl, nofun⟩

end HoNet

end OpenBsc.Libbsc

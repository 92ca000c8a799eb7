import OpenBsc.Sndcp.Entity

/-!
# `Sndcp.Fragment` — sending N-PDUs and their fragments (`gprs_sndcp.c`)

`sndcp_unitdata_req` sends a short N-PDU as one SN-PDU and calls `sndcp_send_ud_frag` for a longer one
until all of it was sent. The LLC layer below (`gprs_llc_tx_ui`) is the parameter `txUi`, the return code
for each frame.
-/

namespace OpenBsc.Sndcp

open List

/-! ## Sender -/

/-- One fragment of an N-PDU: its number in the series, whether more of them follow, and its data. -/
structure Fragment where
  fragNr : Nat
  more : Bool
  data : List Octet

/-- The SN-PDU of a fragment. The segment number is the number of the fragment modulo 15. -/
def Fragment.frame (g : Fragment) (nsapi npduNr : Nat) : List Octet :=
  SndcpCommonHdr.octets ⟨nsapi, g.more, true, g.fragNr == 0⟩ ++
    (if g.fragNr = 0 then SndcpCompHdr.octets ⟨0, 0⟩ else []) ++
    SndcpUdataHdr.octets ⟨npduNr / 256, g.fragNr % 0xf, npduNr⟩ ++ g.data

/-- `struct sndcp_frag_state`: the 8-bit number of the next fragment, and the octets of the message from
    `next_byte` on. -/
structure SndcpFragState where
  fragNr : Nat
  rest : List Octet

/-- How much data the LLC frame of a fragment has room for. -/
def maxPayloadLen (n201u fragNr : Nat) : Nat := if fragNr = 0 then n201u - 4 else n201u - 3

/-- The fragment `sndcp_send_ud_frag` sends next. -/
def SndcpFragState.fragment (fs : SndcpFragState) (n201u : Nat) : Fragment where
  fragNr := fs.fragNr
  more := decide (maxPayloadLen n201u fs.fragNr < fs.rest.length)
  data := fs.rest.take (maxPayloadLen n201u fs.fragNr)

section Sender

variable (txUi : List Octet → Int)

/-- `sndcp_send_ud_frag`: the frame handed down, and the state for the next fragment if there is one. -/
def sndcpSendUdFrag (n201u : Nat) (sne : GprsSndcpEntity) (fs : SndcpFragState) :
    Except Int (List Octet × Option SndcpFragState) :=
  let frame := (fs.fragment n201u).frame sne.nsapi sne.txNpduNr
  if txUi frame < 0 then .error (txUi frame)
  else if (fs.fragment n201u).more then
    .ok (frame, some ⟨(fs.fragNr + 1) % 256, fs.rest.drop (maxPayloadLen n201u fs.fragNr)⟩)
  else .ok (frame, none)

theorem sndcpSendUdFrag_more {n201u : Nat} {sne : GprsSndcpEntity} {fs fs' : SndcpFragState}
    {frame : List Octet} (h : sndcpSendUdFrag txUi n201u sne fs = .ok (frame, some fs')) :
    maxPayloadLen n201u fs.fragNr < fs.rest.length ∧
      fs' = ⟨(fs.fragNr + 1) % 256, fs.rest.drop (maxPayloadLen n201u fs.fragNr)⟩ := by
  simp only [sndcpSendUdFrag] at h
  split at h
  · cases h
  · split at h
    · rename_i hmore
      obtain ⟨-, hfs⟩ := Prod.mk.inj (Except.ok.inj h)
      exact ⟨of_decide_eq_true hmore, (Option.some.inj hfs).symm⟩
    · cases h

/-- The loop of `sndcp_unitdata_req`: the frames the lower layer took, and the return code. A frame with
    room for a header leaves the fragments but the first one room for data, so the loop ends. -/
def sndcpSendFrags {n201u : Nat} (hn : 4 ≤ n201u) (sne : GprsSndcpEntity) (fs : SndcpFragState) :
    List (List Octet) × Int :=
  match _hfrag : sndcpSendUdFrag txUi n201u sne fs with
  | .error rc => ([], rc)
  | .ok (frame, none) => ([frame], 0)
  | .ok (frame, some fs') =>
    (frame :: (sndcpSendFrags hn sne fs').1, (sndcpSendFrags hn sne fs').2)
  termination_by 2 * fs.rest.length + (if fs.fragNr = 0 then 1 else 0)
  decreasing_by
    all_goals
      obtain ⟨hlt, rfl⟩ := sndcpSendUdFrag_more txUi _hfrag
      simp only [List.length_drop]
      unfold maxPayloadLen at hlt ⊢
      split_ifs at hlt ⊢ <;> omega

/-- `sndcp_unitdata_req`. The header is written over fresh head room, whose bits are zero. `n201_u` is
    unsigned: below 4 the difference wraps and nothing is ever fragmented. -/
def sndcpUnitdataReq (es : GprsSndcpEntities) (lle nsapi n201u : Nat) (msg : List Octet) :
    GprsSndcpEntities × List (List Octet) × Int :=
  match gprsSndcpEntityByLle es lle nsapi with
  | none => (es, [], -eio)
  | some sne =>
    let next : GprsSndcpEntity := { sne with txNpduNr := (sne.txNpduNr + 1) % 0xfff }
    if h : 4 ≤ n201u ∧ n201u - 4 < msg.length then
      let res := sndcpSendFrags txUi h.1 sne ⟨0, msg⟩
      (if res.2 = 0 then es.set next else es, res.1, res.2)
    else
      let frame := Fragment.frame ⟨0, false, msg⟩ nsapi sne.txNpduNr
      (es.set next, if txUi frame < 0 then [] else [frame], txUi frame)

end Sender

/-! ## Fragments of an N-PDU -/

/-- The octets `rest` are cut into the fragments `gs`, of which the first has the number `fragNr`. -/
inductive Fragments (n201u : Nat) : Nat → List Octet → List Fragment → Prop where
  | last {fragNr : Nat} {rest : List Octet} (h : rest.length ≤ maxPayloadLen n201u fragNr) :
      Fragments n201u fragNr rest [⟨fragNr, false, rest⟩]
  | more {fragNr : Nat} {rest : List Octet} {gs : List Fragment}
      (h : maxPayloadLen n201u fragNr < rest.length)
      (hgs : Fragments n201u ((fragNr + 1) % 256) (rest.drop (maxPayloadLen n201u fragNr)) gs) :
      Fragments n201u fragNr rest (⟨fragNr, true, rest.take (maxPayloadLen n201u fragNr)⟩ :: gs)

/-- When the lower layer takes the frame, there is another one exactly when octets are left over. -/
theorem sndcpSendUdFrag_ok {txUi : List Octet → Int} (htx : ∀ frame, 0 ≤ txUi frame) (n201u : Nat)
    (sne : GprsSndcpEntity) (fs : SndcpFragState) :
    sndcpSendUdFrag txUi n201u sne fs = .ok ((fs.fragment n201u).frame sne.nsapi sne.txNpduNr,
      if maxPayloadLen n201u fs.fragNr < fs.rest.length then
        some ⟨(fs.fragNr + 1) % 256, fs.rest.drop (maxPayloadLen n201u fs.fragNr)⟩
      else none) := by
  by_cases hmore : maxPayloadLen n201u fs.fragNr < fs.rest.length
  · simp [sndcpSendUdFrag, SndcpFragState.fragment, hmore, htx]
  · simp [sndcpSendUdFrag, SndcpFragState.fragment, hmore, htx]

/-- When the lower layer takes every frame, the loop sends the fragments of the message. -/
theorem sndcpSendFrags_eq {txUi : List Octet → Int} (htx : ∀ frame, 0 ≤ txUi frame) {n201u : Nat}
    (hn : 4 ≤ n201u) (sne : GprsSndcpEntity) (fs : SndcpFragState) :
    ∃ gs, Fragments n201u fs.fragNr fs.rest gs ∧
      sndcpSendFrags txUi hn sne fs = (gs.map fun g => g.frame sne.nsapi sne.txNpduNr, 0) := by
  -- along the recursion of the loop: the lower layer refuses, this was the last fragment, or more follow
  fun_induction sndcpSendFrags txUi hn sne fs with
  | case1 fs rc hfrag =>
    rw [sndcpSendUdFrag_ok htx] at hfrag
    cases hfrag
  | case2 fs frame hfrag =>
    rw [sndcpSendUdFrag_ok htx] at hfrag
    obtain ⟨rfl, hnone⟩ := Prod.mk.inj (Except.ok.inj hfrag)
    have hlast : ¬ maxPayloadLen n201u fs.fragNr < fs.rest.length := by
      intro hlt
      rw [if_pos hlt] at hnone
      cases hnone
    refine ⟨_, .last (not_lt.mp hlast), ?_⟩
    simp [SndcpFragState.fragment, hlast, take_of_length_le (not_lt.mp hlast)]
  | case3 fs frame fs' hfrag ih =>
    obtain ⟨hlt, rfl⟩ := sndcpSendUdFrag_more txUi hfrag
    rw [sndcpSendUdFrag_ok htx, if_pos hlt] at hfrag
    cases hfrag
    obtain ⟨gs, hgs, heq⟩ := ih
    refine ⟨_, .more hlt hgs, ?_⟩
    simp [heq, SndcpFragState.fragment, hlt]

variable {n201u fragNr : Nat} {rest : List Octet} {gs : List Fragment}

section

variable (h : Fragments n201u fragNr rest gs)

include h

theorem Fragments.flatten : (gs.map Fragment.data).flatten = rest := by
  induction h with
  | last _ => simp
  | more _ _ ih => rw [map_cons, flatten_cons, ih, take_append_drop]

theorem Fragments.ne_nil : gs ≠ [] := by
  cases h with
  | last | more => simp

theorem Fragments.fragNr_eq (hlt : fragNr < 256) {i : Nat}
    {g : Fragment} (hi : gs[i]? = some g) : g.fragNr = (fragNr + i) % 256 := by
  induction h generalizing i with
  | last _ =>
    cases i with
    | zero =>
      cases hi
      exact (Nat.mod_eq_of_lt hlt).symm
    | succ i => simp at hi
  | more _ _ ih =>
    cases i with
    | zero =>
      cases hi
      exact (Nat.mod_eq_of_lt hlt).symm
    | succ i =>
      rw [getElem?_cons_succ] at hi
      rw [ih (Nat.mod_lt _ (by decide)) hi]
      omega

theorem Fragments.more_eq {i : Nat} {g : Fragment}
    (hi : gs[i]? = some g) : g.more = decide (i + 1 < gs.length) := by
  induction h generalizing i with
  | last _ =>
    cases i with
    | zero =>
      cases hi
      rfl
    | succ i => simp at hi
  | more _ hgs ih =>
    cases i with
    | zero =>
      cases hi
      have := length_pos_of_ne_nil hgs.ne_nil
      simp [this]
    | succ i =>
      rw [getElem?_cons_succ] at hi
      rw [ih hi]
      simp

theorem Fragments.data_le :
    ∀ g ∈ gs, g.data.length ≤ maxPayloadLen n201u g.fragNr := by
  induction h with
  | last hle => simpa using hle
  | more hlt _ ih =>
    intro g hg
    rcases mem_cons.mp hg with rfl | hg
    · exact length_take_le _ _
    · exact ih g hg

/-- Each fragment of a message that is not empty carries data, unless it has the long header of a first
    fragment and more follow. -/
theorem Fragments.data_ne_nil (hn : 4 ≤ n201u) (hrest : rest ≠ []) :
    ∀ g ∈ gs, g.fragNr ≠ 0 ∨ g.more = false → g.data ≠ [] := by
  induction h with
  | last _ =>
    intro g hg _
    rw [mem_singleton.mp hg]
    exact hrest
  | @more fragNr rest gs hlt _ ih =>
    intro g hg hor
    rcases mem_cons.mp hg with rfl | hg
    · have hnr : fragNr ≠ 0 := by simpa using hor
      have hpos : 0 < maxPayloadLen n201u fragNr := by
        rw [maxPayloadLen, if_neg hnr]
        omega
      refine ne_nil_of_length_pos ?_
      rw [length_take]
      omega
    · refine ih (fun hnil => ?_) g hg hor
      have := congrArg length hnil
      rw [length_drop, length_nil] at this
      omega

end

/-- After the first one, the number of fragments is bounded by how often the payload fits a frame. -/
theorem Fragments.length_le_iff {m : Nat} : ∀ {fragNr : Nat} {rest : List Octet} {gs : List Fragment},
    Fragments n201u fragNr rest gs → 4 ≤ n201u → fragNr ≠ 0 → fragNr + m < 256 →
      (gs.length ≤ m + 1 ↔ rest.length ≤ (m + 1) * (n201u - 3)) := by
  induction m with
  | zero =>
    intro fragNr rest gs h hn hnr _
    have hmax : maxPayloadLen n201u fragNr = n201u - 3 := if_neg hnr
    cases h with
    | last hle =>
      rw [hmax] at hle
      simpa using hle
    | more hlt hgs =>
      rw [hmax] at hlt
      have := length_pos_of_ne_nil hgs.ne_nil
      rw [length_cons]
      omega
  | succ m ih =>
    intro fragNr rest gs h hn hnr hm
    have hmax : maxPayloadLen n201u fragNr = n201u - 3 := if_neg hnr
    have hmul : (m + 1 + 1) * (n201u - 3) = (m + 1) * (n201u - 3) + (n201u - 3) := Nat.succ_mul _ _
    cases h with
    | last hle =>
      rw [hmax] at hle
      simp only [length_singleton]
      omega
    | more hlt hgs =>
      have hnext : (fragNr + 1) % 256 = fragNr + 1 := Nat.mod_eq_of_lt (by omega)
      rw [hnext, hmax] at hgs
      have hih := ih hgs hn (by omega) (by omega)
      rw [length_drop] at hih
      rw [length_cons]
      omega

end OpenBsc.Sndcp

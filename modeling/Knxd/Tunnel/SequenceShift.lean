import Knxd.Tunnel.Endpoint

/-!
# Sequence numbers of the tunnel client

The client counts the tunnel requests that it takes modulo 256.  A request that is neither
the expected one nor the last one again makes it leave the connection if its number is at
least five ahead of the counter, and is ignored otherwise.  If "ahead" is meant around the
circle, as `circularReaction` says it, then nothing but the difference of the two numbers
counts.

The source tries to get around the circle by adding 0x100 to a number below the counter.
The number is a byte, so nothing is added, and a number that is far ahead but has passed 255
is taken for one that lies behind.
-/

namespace Knxd.SequenceShift

open Memory LPDU EMI Packet Client Endpoint EIBNetIPTunnel ServiceType Option BitVec List

/-- The sequence number of a tunnel request, and of its acknowledgement, is the third byte. -/
def shiftPacket (k : Byte) (p : EIBNetIPPacket) : EIBNetIPPacket :=
  { p with data := p.data.modify 2 (· + k) }

def shiftRequest (k : Byte) (treq : EIBnetRequest) : EIBnetRequest :=
  { treq with seqno := treq.seqno + k }

def shiftOutput (k : Byte) : Output → Output
  | .send p => .send (if p.service = ServiceType.tunnelResponse.code then shiftPacket k p else p)
  | output => output

def shiftClient (k : Byte) (c : EIBNetIPTunnel) : EIBNetIPTunnel :=
  { c with rno := (c.rno + k.toNat) % 256 }

def withCounter (c : EIBNetIPTunnel) (rno : Byte) : EIBNetIPTunnel :=
  { c with rno := rno.toNat }

/-- The packets are received one after the other; the effects are listed for each of them. -/
def receiveAll (c : EIBNetIPTunnel) : List EIBNetIPPacket →
    Run (EIBNetIPTunnel × List (List Output))
  | [] => pure (c, [])
  | p :: packets => do
      let (next, outputs) ← c.readCb p
      let (last, rest) ← receiveAll next packets
      pure (last, outputs :: rest)

def ahead (rno seqno : Byte) : ℕ :=
  (seqno - rno).toNat

def circularReaction (rno : Byte) (treq : EIBnetRequest) : Reaction :=
  if treq.seqno + 1 = rno then .repeated treq
  else if treq.seqno = rno then .taken treq
  else if 5 ≤ ahead rno treq.seqno then .restarted
  else .ignored

/-- The number does not lie below the counter, is the last one, or is less than five ahead. -/
def Judged (rno seqno : Byte) : Prop :=
  rno.toNat ≤ seqno.toNat ∨ seqno + 1 = rno ∨ ahead rno seqno < 5
  deriving Decidable

theorem add_one_eq_iff (rno seqno : Byte) :
    seqno + 1 = rno ↔ (seqno.toNat + 1) % 256 = rno.toNat := by
  rw [← toNat_inj, toNat_add]
  rfl

theorem ahead_eq (rno seqno : Byte) : ahead rno seqno = (256 - rno.toNat + seqno.toNat) % 256 := by
  rw [ahead, toNat_sub]

/-- The circle is got right exactly for the numbers that are judged rightly. -/
theorem requestReaction_eq_iff (c : EIBNetIPTunnel) (rno : Byte) (treq : EIBnetRequest) :
    requestReaction (withCounter c rno) treq = circularReaction rno treq ↔
      Judged rno treq.seqno := by
  have hrno := rno.isLt
  have hseqno := treq.seqno.isLt
  have hsame : treq.seqno = rno ↔ treq.seqno.toNat = rno.toNat := toNat_inj.symm
  rw [Judged, circularReaction, requestReaction]
  simp only [withCounter, add_one_eq_iff, hsame, ahead_eq, ne_eq, ge_iff_le]
  by_cases hrepeated : (treq.seqno.toNat + 1) % 256 = rno.toNat
  · rw [if_pos hrepeated, if_pos hrepeated]
    exact iff_of_true rfl (.inr (.inl hrepeated))
  by_cases hexpected : treq.seqno.toNat = rno.toNat
  · rw [if_neg hrepeated, if_neg hrepeated, if_neg (not_not.2 hexpected), if_pos hexpected]
    exact iff_of_true rfl (.inl hexpected.ge)
  rw [if_neg hrepeated, if_neg hrepeated, if_pos hexpected, if_neg hexpected]
  by_cases hfar : rno.toNat + 5 ≤ treq.seqno.toNat
  · rw [if_pos hfar, if_pos (by omega)]
    exact iff_of_true rfl (.inl (by omega))
  · rw [if_neg hfar]
    by_cases hahead : 5 ≤ (256 - rno.toNat + treq.seqno.toNat) % 256
    · rw [if_pos hahead]
      exact iff_of_false (by simp) (by omega)
    · rw [if_neg hahead]
      exact iff_of_true rfl (.inr (.inr (not_le.1 hahead)))

/-- The reaction depends on the difference of the two numbers only. -/
def shiftReaction (k : Byte) : Reaction → Reaction
  | .repeated treq => .repeated (shiftRequest k treq)
  | .taken treq => .taken (shiftRequest k treq)
  | reaction => reaction

theorem circularReaction_shift (rno k : Byte) (treq : EIBnetRequest) :
    circularReaction (rno + k) (shiftRequest k treq) =
      shiftReaction k (circularReaction rno treq) := by
  have hrepeated : treq.seqno + k + 1 = rno + k ↔ treq.seqno + 1 = rno := by
    rw [add_assoc, add_comm k 1, ← add_assoc, add_left_inj]
  have hahead : ahead (rno + k) (treq.seqno + k) = ahead rno treq.seqno := by
    rw [ahead, ahead]
    congr 1
    bv_omega
  simp only [circularReaction, shiftRequest, hrepeated, add_left_inj, hahead]
  split_ifs <;> rfl

def shiftResult (k : Byte) (result : EIBNetIPTunnel × List Output) :
    EIBNetIPTunnel × List Output :=
  (shiftClient k result.1, result.2.map (shiftOutput k))

theorem parseTunnelRequest_shift (k : Byte) (p : EIBNetIPPacket) :
    parseTunnelRequest (shiftPacket k p) = (parseTunnelRequest p).map (shiftRequest k) := by
  obtain ⟨service, data, _⟩ := p
  rw [parseTunnelRequest, parseRequest, parseRequest, shiftPacket, length_modify]
  by_cases hservice : service ≠ tunnelRequest.code
  · rw [if_pos hservice, if_pos hservice]
    rfl
  by_cases hlength : data.length < 6
  · rw [if_neg hservice, if_neg hservice, if_pos hlength, if_pos hlength]
    rfl
  rw [if_neg hservice, if_neg hservice, if_neg hlength, if_neg hlength]
  rcases data with _ | ⟨first, _ | ⟨channel, _ | ⟨seqno, rest⟩⟩⟩
  · exact absurd (by simp) hlength
  · exact absurd (by simp) hlength
  · exact absurd (by simp) hlength
  · exact (apply_ite (Option.map (shiftRequest k)) (first ≠ 4) none
      (some ⟨channel, seqno, rest.drop 1⟩)).symm

section Step

variable {k : Byte} {c : EIBNetIPTunnel}

/-- The message of a request is taken whatever the counter. -/
theorem takeCEMI_shift (k : Byte) (c : EIBNetIPTunnel) (cemi : CArray) :
    (shiftClient k c).takeCEMI cemi = shiftResult k <$> c.takeCEMI cemi := by
  unfold takeCEMI
  cases readAt cemi 0 with
  | error => rfl
  | ok code =>
    rw [ok_bind, ok_bind]
    by_cases hconfirmation : code = 0x2E
    · rw [if_pos hconfirmation, if_pos hconfirmation]
      by_cases hmod : c.mod = 3
      · rw [if_pos hmod, if_pos (show (shiftClient k c).mod = 3 from hmod)]
        rfl
      · rw [if_neg hmod, if_neg (show (shiftClient k c).mod ≠ 3 from hmod)]
        rfl
    rw [if_neg hconfirmation, if_neg hconfirmation]
    by_cases hbusmonitor : code = 0x2B
    · rw [if_pos hbusmonitor, if_pos hbusmonitor]
      rfl
    rw [if_neg hbusmonitor, if_neg hbusmonitor]
    by_cases hother : code ≠ 0x29
    · rw [if_pos hother, if_pos hother]
      rfl
    rw [if_neg hother, if_neg hother]
    match cemiToLData cemi with
    | .error fault => rfl
    | .ok none => rfl
    | .ok (some l) =>
      rw [ok_bind, ok_bind]
      by_cases hmonitor : c.monitor
      · simp only [if_pos hmonitor, if_pos (show (shiftClient k c).monitor from hmonitor)]
        cases l.toPacket <;> rfl
      · simp only [if_neg hmonitor, if_neg (show ¬ (shiftClient k c).monitor from hmonitor)]
        rfl

theorem nextNumber_shift (hrno : c.rno < 256) : shiftClient k { c with rno := nextNumber c.rno } =
      { shiftClient k c with rno := nextNumber (shiftClient k c).rno } := by
  have hnext : (nextNumber c.rno + k.toNat) % 256 = nextNumber ((c.rno + k.toNat) % 256) := by
    rw [nextNumber_mod, nextNumber]
    split <;> omega
  rw [shiftClient, hnext]
  rfl

/-- Leaving the connection has nothing to do with the counter. -/
theorem restart_shift (k : Byte) (c : EIBNetIPTunnel) :
    (shiftClient k c).restart = shiftResult k c.restart := by
  unfold restart
  by_cases hmod : c.mod = 0
  · rw [if_pos hmod, if_pos (show (shiftClient k c).mod = 0 from hmod)]
    rfl
  · rw [if_neg hmod, if_neg (show (shiftClient k c).mod ≠ 0 from hmod)]
    cases hchannel : c.channel with
    | none => simp [shiftResult, shiftClient, hchannel]
    | some channel =>
      have hservice : (disconnectRequestToPacket { channel, caddr := c.saddr }).service ≠
          tunnelResponse.code := by
        simp [disconnectRequestToPacket, EIBnetControlRequest.toPacket, code]
      simp [shiftResult, shiftClient, shiftOutput, hchannel, hservice]

/-- Each of the four outcomes of a request. -/
theorem react_shift (hrno : c.rno < 256) (rno : Byte) (treq : EIBnetRequest) :
    react (shiftClient k c) (shiftReaction k (circularReaction rno treq)) =
      shiftResult k <$> react c (circularReaction rno treq) := by
  unfold circularReaction
  split_ifs
  · rfl
  · have htake := takeCEMI_shift k { c with rno := nextNumber c.rno } treq.cemi
    rw [nextNumber_shift hrno] at htake
    rw [shiftReaction, react, react, show (shiftRequest k treq).cemi = treq.cemi from rfl, htake]
    cases takeCEMI { c with rno := nextNumber c.rno } treq.cemi <;> rfl
  · change pure (shiftClient k c).restart = shiftResult k <$> pure c.restart
    rw [restart_shift]
    rfl
  · rfl

end Step

/-- A request that reaches the comparison of the numbers is judged rightly. -/
def JudgedPacket (c : EIBNetIPTunnel) (p : EIBNetIPPacket) : Prop :=
  ∀ treq, c.mod ≠ 0 → parseTunnelRequest p = some treq → some treq.channel = c.channel →
    Judged (BitVec.ofNat 8 c.rno) treq.seqno

/-- Every request of a sequence is judged rightly in the state in which it arrives. -/
def JudgedAll (c : EIBNetIPTunnel) : List EIBNetIPPacket → Prop
  | [] => True
  | p :: packets =>
    JudgedPacket c p ∧ ∀ next outputs, c.readCb p = .ok (next, outputs) → JudgedAll next packets

section Run

variable {k : Byte} {c next : EIBNetIPTunnel} {p : EIBNetIPPacket}

/-- The reaction to a tunnel request that is judged rightly. -/
theorem reaction_request (hrno : c.rno < 256)
    (hservice : p.service = ServiceType.tunnelRequest.code) (hjudged : JudgedPacket c p) :
    reaction c p =
      if c.mod = 0 then .ignored
      else forChannel c (parseTunnelRequest p) (·.channel)
        (circularReaction (BitVec.ofNat 8 c.rno)) := by
  have hcounter : withCounter c (BitVec.ofNat 8 c.rno) = c := by
    rw [withCounter, toNat_ofNat, Nat.mod_eq_of_lt hrno]
  rw [reaction, hservice, ofCode_code]
  dsimp only
  by_cases hmod : c.mod = 0
  · rw [if_pos hmod, if_pos hmod]
  rw [if_neg hmod, if_neg hmod]
  cases hparsed : parseTunnelRequest p with
  | none => rfl
  | some treq =>
    by_cases hchannel : some treq.channel = c.channel
    · have hsame := (requestReaction_eq_iff c (BitVec.ofNat 8 c.rno) treq).2
        (hjudged treq hmod hparsed hchannel)
      rw [hcounter] at hsame
      simp only [forChannel, ne_eq, hchannel, not_true_eq_false, if_false, hsame]
    · simp only [forChannel, ne_eq, hchannel, not_false_eq_true, if_true]

theorem ofNat_shift (k : Byte) (c : EIBNetIPTunnel) :
    BitVec.ofNat 8 (shiftClient k c).rno = BitVec.ofNat 8 c.rno + k := by
  apply eq_of_toNat_eq
  simp [shiftClient]

/-- One request in both runs. -/
theorem readCb_shift (hrno : c.rno < 256)
    (hservice : p.service = ServiceType.tunnelRequest.code) (hjudged : JudgedPacket c p)
    (hshifted : JudgedPacket (shiftClient k c) (shiftPacket k p)) :
    (shiftClient k c).readCb (shiftPacket k p) = shiftResult k <$> c.readCb p := by
  have hbound : (shiftClient k c).rno < 256 := Nat.mod_lt _ (by norm_num)
  have hsame : (shiftPacket k p).service = tunnelRequest.code := hservice
  rw [readCb_eq, readCb_eq, reaction_request hrno hservice hjudged,
    reaction_request hbound hsame hshifted, parseTunnelRequest_shift, ofNat_shift]
  by_cases hmod : c.mod = 0
  · rw [if_pos hmod, if_pos (show (shiftClient k c).mod = 0 from hmod)]
    rfl
  rw [if_neg hmod, if_neg (show (shiftClient k c).mod ≠ 0 from hmod)]
  cases parseTunnelRequest p with
  | none => rfl
  | some treq =>
    by_cases hchannel : some treq.channel = c.channel
    · have hown : forChannel (shiftClient k c) (some (shiftRequest k treq)) (·.channel)
          (circularReaction (BitVec.ofNat 8 c.rno + k)) =
            circularReaction (BitVec.ofNat 8 c.rno + k) (shiftRequest k treq) :=
        if_neg (not_not.2 hchannel)
      have hother : forChannel c (some treq) (·.channel) (circularReaction (BitVec.ofNat 8 c.rno)) =
            circularReaction (BitVec.ofNat 8 c.rno) treq := if_neg (not_not.2 hchannel)
      rw [map_some, hown, hother, circularReaction_shift, react_shift hrno]
    · have hown : forChannel (shiftClient k c) (some (shiftRequest k treq)) (·.channel)
          (circularReaction (BitVec.ofNat 8 c.rno + k)) = .ignored := if_pos hchannel
      have hother : forChannel c (some treq) (·.channel)
          (circularReaction (BitVec.ofNat 8 c.rno)) = .ignored := if_pos hchannel
      rw [map_some, hown, hother]
      rfl

/-- Taking a message leaves the counter alone. -/
theorem rno_takeCEMI {cemi : CArray} {result : EIBNetIPTunnel × List Output}
    (htake : c.takeCEMI cemi = .ok result) : result.1.rno = c.rno := by
  unfold takeCEMI at htake
  obtain ⟨_, -, htake⟩ := bind_eq_ok_iff.1 htake
  split at htake
  · cases htake
    split <;> rfl
  split at htake
  · cases htake
    rfl
  split at htake
  · cases htake
    rfl
  obtain ⟨frame, -, htake⟩ := bind_eq_ok_iff.1 htake
  cases frame with
  | none =>
    cases htake
    rfl
  | some =>
    dsimp only at htake
    split at htake
    · obtain ⟨_, -, htake⟩ := bind_eq_ok_iff.1 htake
      cases htake
      rfl
    · cases htake
      rfl

/-- The counter stays a byte. -/
theorem rno_react (hrno : c.rno < 256) {reaction : Reaction}
    {result : EIBNetIPTunnel × List Output} (hreact : react c reaction = .ok result) :
    result.1.rno < 256 := by
  cases reaction with
  | taken =>
    obtain ⟨⟨taken, _⟩, htake, hdone⟩ := bind_eq_ok_iff.1 hreact
    cases hdone
    rw [rno_takeCEMI htake]
    change nextNumber c.rno < 256
    rw [nextNumber]
    split <;> omega
  | connected =>
    cases hreact
    exact Nat.zero_lt_succ 255
  | restarted =>
    cases hreact
    unfold restart
    split <;> exact hrno
  | left | ignored | repeated | confirmed | alive | failed | asked =>
    cases hreact
    exact hrno

theorem receiveAll_cons (c : EIBNetIPTunnel) (p : EIBNetIPPacket) (packets : List EIBNetIPPacket) :
    receiveAll c (p :: packets) = c.readCb p >>= fun result =>
      (fun rest => (rest.1, result.2 :: rest.2)) <$> receiveAll result.1 packets := by
  rw [receiveAll]
  cases c.readCb p with
  | error => rfl
  | ok result =>
    obtain ⟨next, _⟩ := result
    rw [ok_bind, ok_bind]
    dsimp only
    cases receiveAll next packets <;> rfl

/-- Both runs go on side by side. -/
theorem receiveAll_shift (hrno : c.rno < 256) (packets : List EIBNetIPPacket)
    (hservice : ∀ p ∈ packets, p.service = ServiceType.tunnelRequest.code)
    (hjudged : JudgedAll c packets)
    (hshifted : JudgedAll (shiftClient k c) (packets.map (shiftPacket k))) :
    receiveAll (shiftClient k c) (packets.map (shiftPacket k)) =
      (fun result => (shiftClient k result.1, result.2.map (·.map (shiftOutput k)))) <$>
        receiveAll c packets := by
  induction packets generalizing c with
  | nil => rfl
  | cons p packets ih =>
    have hstep := readCb_shift hrno (hservice p mem_cons_self) hjudged.1 hshifted.1
    rw [map_cons, receiveAll_cons, receiveAll_cons, hstep]
    cases hread : c.readCb p with
    | error => rfl
    | ok result =>
      obtain ⟨next, outputs⟩ := result
      have hnext : next.rno < 256 := rno_react hrno ((readCb_eq c p).symm.trans hread)
      have hrest := ih hnext (fun p hp => hservice p (mem_cons_of_mem _ hp))
        (hjudged.2 next outputs hread) (hshifted.2 _ _ (by rw [hstep, hread]; rfl))
      change (fun rest => (rest.1, outputs.map (shiftOutput k) :: rest.2)) <$>
        receiveAll (shiftClient k next) (packets.map (shiftPacket k)) = _
      rw [hrest, ok_bind]
      cases receiveAll next packets <;> rfl

end Run

/-- The rule for a request that is neither expected nor the last one again: it makes the client
leave the connection if it is at least five ahead, and is ignored otherwise. -/
def GapRule (c : EIBNetIPTunnel) (rno : Byte) (treq : EIBnetRequest) : Prop :=
  (withCounter c rno).tunnelRequest treq =
    pure (if 5 ≤ ahead rno treq.seqno then (withCounter c rno).restart else (withCounter c rno, []))

/-- Leaving the connection is not the same as ignoring a request. -/
theorem restart_ne {c : EIBNetIPTunnel} (hmod : c.mod ≠ 0) : c.restart ≠ (c, []) := by
  intro hsame
  have hleft := restart_mod c
  rw [hsame] at hleft
  exact hmod hleft

theorem gapRule_iff {c : EIBNetIPTunnel} {rno : Byte} {treq : EIBnetRequest} (hmod : c.mod ≠ 0)
    (hexpected : treq.seqno ≠ rno) (hrepeated : treq.seqno + 1 ≠ rno) :
    GapRule c rno treq ↔ Judged rno treq.seqno := by
  have hcircular : circularReaction rno treq =
      if 5 ≤ ahead rno treq.seqno then .restarted else .ignored := by
    rw [circularReaction, if_neg hrepeated, if_neg hexpected]
  have hsource : requestReaction (withCounter c rno) treq =
      if rno.toNat + 5 ≤ treq.seqno.toNat then .restarted else .ignored := by
    rw [requestReaction, withCounter, if_neg fun h => hrepeated ((add_one_eq_iff _ _).2 h),
      if_pos fun h => hexpected (eq_of_toNat_eq h)]
  have hleave : (withCounter c rno).restart ≠ (withCounter c rno, []) := restart_ne hmod
  rw [← requestReaction_eq_iff c rno treq, GapRule, tunnelRequest_eq, hcircular, hsource]
  by_cases hfar : rno.toNat + 5 ≤ treq.seqno.toNat
  · rw [if_pos hfar]
    by_cases hahead : 5 ≤ ahead rno treq.seqno
    · rw [if_pos hahead, if_pos hahead]
      exact iff_of_true rfl rfl
    · rw [if_neg hahead, if_neg hahead]
      exact iff_of_false (fun hsame => hleave (Except.ok.inj hsame)) (by simp)
  · rw [if_neg hfar]
    by_cases hahead : 5 ≤ ahead rno treq.seqno
    · rw [if_pos hahead, if_pos hahead]
      exact iff_of_false (fun hsame => hleave (Except.ok.inj hsame).symm) (by simp)
    · rw [if_neg hahead, if_neg hahead]
      exact iff_of_true rfl rfl

/-- Sequences of tunnel requests in which no request that is far ahead of the counter lies below
it, neither in the given run nor in the shifted one, have the same effects in both: the same
frames, the acknowledgements shifted by `k`, and the connection left at the same points.  A single
request that is neither expected nor repeated is treated by the rule for gaps exactly if it meets
this condition. -/
theorem requests_shift_invariant (c : EIBNetIPTunnel) (rno k : Byte) :
    (∀ packets : List EIBNetIPPacket, (∀ p ∈ packets, p.service = ServiceType.tunnelRequest.code) →
      JudgedAll (withCounter c rno) packets →
      JudgedAll (withCounter c (rno + k)) (packets.map (shiftPacket k)) →
      receiveAll (withCounter c (rno + k)) (packets.map (shiftPacket k)) =
        (fun result => (shiftClient k result.1, result.2.map (·.map (shiftOutput k)))) <$>
          receiveAll (withCounter c rno) packets) ∧
    ∀ treq : EIBnetRequest, c.mod ≠ 0 → treq.seqno ≠ rno → treq.seqno + 1 ≠ rno →
      (GapRule c rno treq ↔ Judged rno treq.seqno) := by
  have hcounter : shiftClient k (withCounter c rno) = withCounter c (rno + k) := by
    rw [shiftClient, withCounter, withCounter, BitVec.toNat_add]
  constructor
  · intro packets hservice hjudged hshifted
    rw [← hcounter] at hshifted ⊢
    exact receiveAll_shift rno.isLt packets hservice hjudged hshifted
  · intro treq hmod hexpected hrepeated
    exact gapRule_iff hmod hexpected hrepeated

/-- A tunnel request with an indication from the bus. -/
def indication (seqno : Byte) : EIBNetIPPacket :=
  tunnelRequestToPacket
    { channel := 1, seqno, cemi := [0x29, 0, 0xbc, 0xe0, 0x11, 0x01, 0x08, 0x01, 1, 0, 0x81] }

def connected : EIBNetIPTunnel :=
  { channel := some 1, mod := 1 }

theorem judgedPacket_indication (c : EIBNetIPTunnel) {seqno : Byte}
    (hjudged : Judged (BitVec.ofNat 8 c.rno) seqno) : JudgedPacket c (indication seqno) := by
  intro treq _ hparsed _
  have hread : parseTunnelRequest (indication seqno) = some
      ⟨1, seqno, [0x29, 0, 0xbc, 0xe0, 0x11, 0x01, 0x08, 0x01, 1, 0, 0x81]⟩ := rfl
  obtain rfl := some.inj (hread.symm.trans hparsed)
  exact hjudged

/-- Two requests around the wrap of the counter have the effects of the first two. -/
theorem requests_shift_invariant_wrap :
    receiveAll (withCounter connected 255) [indication 255, indication 0] =
      (fun result => (shiftClient 255 result.1, result.2.map (·.map (shiftOutput 255)))) <$>
        receiveAll (withCounter connected 0) [indication 0, indication 1] := by
  refine (requests_shift_invariant connected 0 255).1 [indication 0, indication 1] (by decide)
    ⟨judgedPacket_indication _ (by decide), fun next outputs hread => ?_⟩
    ⟨judgedPacket_indication _ (by decide), fun next outputs hread => ?_⟩
  · cases hread
    exact ⟨judgedPacket_indication _ (by decide), fun _ _ _ => trivial⟩
  · cases hread
    exact ⟨judgedPacket_indication _ (by decide), fun _ _ _ => trivial⟩

/-- A request that is 16 ahead makes the client leave the connection if the counter is 0.  The
same request, shifted by 250, is ignored. -/
theorem requests_not_shift_invariant : receiveAll (withCounter connected 0) [indication 16] =
      .ok ((withCounter connected 0).restart.1, [(withCounter connected 0).restart.2]) ∧
    (withCounter connected 0).restart.1.mod = 0 ∧
    shiftPacket 250 (indication 16) = indication 10 ∧ ahead 0 16 = 16 ∧ ahead 250 10 = 16 ∧
    receiveAll (withCounter connected 250) [indication 10] = .ok (withCounter connected 250, [[]]) ∧
    (withCounter connected 250).mod = 1 :=
  ⟨rfl, rfl, rfl, rfl, rfl, rfl, rfl⟩

end Knxd.SequenceShift

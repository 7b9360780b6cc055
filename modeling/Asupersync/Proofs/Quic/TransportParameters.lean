/-
The QUIC transport parameters (`TransportParameters::encode` and
`TransportParameters::decode` in `net/quic_core/mod.rs`) read back what
they write.

# Writing

`encode` writes one entry per present parameter, in a fixed order: an
id, a length and a value, each id and length a varint (`tlv`). The
known parameters come first, each value a varint body
(`TransportParameters.knownEntries`), then the unknown ones as they are
(`TransportParameters.entries`). A value past `QUIC_VARINT_MAX` fails
the write after the entries before it were written, so what encoding
shows is an `OkAppends`: a successful run checked every varint
(`TransportParameters.Encodable`) and wrote the entries
(`TransportParameters.encode_okAppends`).

# Reading

The decode loop reads one entry a pass (`decodeLoop_tlv`); over entries
of distinct ids that fill the input it applies them in order
(`decodeLoop_entries`). The entries of `encode` have distinct ids when
the unknown ones do and have none of the `TP_*` ids
(`TransportParameters.nodup_entries`). Applied to the default
parameters, the known entries fill their fields one by one, each field
still empty when its entry comes (`TransportParameters.foldlM_knownEntries`),
when the payload size and the ACK delay exponent pass the decoder's
range checks; the unknown entries are appended in order
(`foldlM_unknown`). Together: `TransportParameters.decode_of_encode`.
-/
import Asupersync.Proofs.Quic.Header

namespace Asupersync

namespace QuicCore

open Machine (Appends OkAppends)

/-- One parameter as `encode_parameter` writes it: the id and the
value's length as varints, then the value. -/
def tlv (e : Nat × List UInt8) : List UInt8 :=
  rfcVarint (varintLen e.1) e.1 ++ (rfcVarint (varintLen e.2.length) e.2.length ++ e.2)

/-- An entry whose id and length each fit a varint. -/
def Fits (e : Nat × List UInt8) : Prop := e.1 ≤ quicVarintMax ∧ e.2.length ≤ quicVarintMax

/-- What `encode_known_u64` writes: nothing for an absent value, and for
a present one an entry whose body is the value as a varint. -/
def knownEntry (id : Nat) : Option Nat → List (Nat × List UInt8)
  | none => []
  | some v => [(id, rfcVarint (varintLen v) v)]

/-- The known parameters `TransportParameters::encode` writes, in its
order. -/
def TransportParameters.knownEntries (tp : TransportParameters) : List (Nat × List UInt8) :=
  knownEntry tpMaxIdleTimeout tp.maxIdleTimeout ++
  (knownEntry tpMaxUdpPayloadSize tp.maxUdpPayloadSize ++
  (knownEntry tpInitialMaxData tp.initialMaxData ++
  (knownEntry tpInitialMaxStreamDataBidiLocal tp.initialMaxStreamDataBidiLocal ++
  (knownEntry tpInitialMaxStreamDataBidiRemote tp.initialMaxStreamDataBidiRemote ++
  (knownEntry tpInitialMaxStreamDataUni tp.initialMaxStreamDataUni ++
  (knownEntry tpInitialMaxStreamsBidi tp.initialMaxStreamsBidi ++
  (knownEntry tpInitialMaxStreamsUni tp.initialMaxStreamsUni ++
  (knownEntry tpAckDelayExponent tp.ackDelayExponent ++
  (knownEntry tpMaxAckDelay tp.maxAckDelay ++
  ((if tp.disableActiveMigration then [(tpDisableActiveMigration, [])] else []) ++
  knownEntry tpMaxDatagramFrameSize tp.maxDatagramFrameSize))))))))))

/-- Every parameter `TransportParameters::encode` writes, in its order:
the known ones, then the unknown ones as they are. -/
def TransportParameters.entries (tp : TransportParameters) : List (Nat × List UInt8) :=
  tp.knownEntries ++ tp.unknown.map fun p => (p.id, p.value)

/-- The values of the known parameters `encode` writes as varints. -/
def TransportParameters.knownValues (tp : TransportParameters) : List (Option Nat) :=
  [tp.maxIdleTimeout, tp.maxUdpPayloadSize, tp.initialMaxData, tp.initialMaxStreamDataBidiLocal,
    tp.initialMaxStreamDataBidiRemote, tp.initialMaxStreamDataUni, tp.initialMaxStreamsBidi,
    tp.initialMaxStreamsUni, tp.ackDelayExponent, tp.maxAckDelay, tp.maxDatagramFrameSize]

/-- What a successful `TransportParameters::encode` shows of the
parameters: every value it writes as a varint fits one. -/
def TransportParameters.Encodable (tp : TransportParameters) : Prop :=
  (∀ o ∈ tp.knownValues, ∀ v ∈ o, v ≤ quicVarintMax) ∧
    ∀ p ∈ tp.unknown, p.id ≤ quicVarintMax ∧ p.value.length ≤ quicVarintMax

-- ============================================================ encoding

theorem encodeParameter_okAppends (id : Nat) (value : List UInt8) :
    OkAppends (encodeParameter id value) (Fits (id, value)) (tlv (id, value)) :=
  OkAppends.mono
    (OkAppends.bind (encodeVarint_okAppends id)
      (OkAppends.bind (encodeVarint_okAppends value.length)
        (OkAppends.of_appends_ok (BytesMut.extendFromSlice_appends value))))
    (fun hc => ⟨hc.1, hc.2.1⟩) rfl

theorem encodeKnownU64_okAppends (id : Nat) (slot : Option Nat) :
    OkAppends (encodeKnownU64 id slot) (∀ v ∈ slot, v ≤ quicVarintMax) ((knownEntry id slot).flatMap tlv) := by
  cases slot with
  | none => exact OkAppends.mono (OkAppends.of_appends_ok Appends.pure) (fun _ _ hv => nomatch hv) rfl
  | some v =>
    have hrun := encodeVarint_appends v []
    simp only [encodeKnownU64]
    by_cases hbig : v > quicVarintMax
    · simp only [if_pos hbig] at hrun
      rw [hrun]
      exact fun _ _ _ h => nomatch h
    · simp only [if_neg hbig, List.nil_append] at hrun
      rw [hrun]
      refine OkAppends.mono (encodeParameter_okAppends id _) (fun _ w hw => ?_) (by simp [knownEntry])
      cases hw
      exact Nat.le_of_not_lt hbig

theorem TransportParameters.encode_okAppends (tp : TransportParameters) :
    OkAppends tp.encode tp.Encodable (tp.entries.flatMap tlv) := by
  unfold encode
  dsimp only
  -- the flag's entry, the last known value, then the unknown parameters
  have htail := OkAppends.ite_bind (tp.disableActiveMigration = true)
    (encodeParameter_okAppends tpDisableActiveMigration [])
    (OkAppends.bind (encodeKnownU64_okAppends tpMaxDatagramFrameSize tp.maxDatagramFrameSize)
      (OkAppends.forM (fun p => encodeParameter_okAppends p.id p.value) tp.unknown))
  refine OkAppends.mono
    (OkAppends.bind (encodeKnownU64_okAppends tpMaxIdleTimeout tp.maxIdleTimeout)
    (OkAppends.bind (encodeKnownU64_okAppends tpMaxUdpPayloadSize tp.maxUdpPayloadSize)
    (OkAppends.bind (encodeKnownU64_okAppends tpInitialMaxData tp.initialMaxData)
    (OkAppends.bind (encodeKnownU64_okAppends tpInitialMaxStreamDataBidiLocal tp.initialMaxStreamDataBidiLocal)
    (OkAppends.bind (encodeKnownU64_okAppends tpInitialMaxStreamDataBidiRemote tp.initialMaxStreamDataBidiRemote)
    (OkAppends.bind (encodeKnownU64_okAppends tpInitialMaxStreamDataUni tp.initialMaxStreamDataUni)
    (OkAppends.bind (encodeKnownU64_okAppends tpInitialMaxStreamsBidi tp.initialMaxStreamsBidi)
    (OkAppends.bind (encodeKnownU64_okAppends tpInitialMaxStreamsUni tp.initialMaxStreamsUni)
    (OkAppends.bind (encodeKnownU64_okAppends tpAckDelayExponent tp.ackDelayExponent)
    (OkAppends.bind (encodeKnownU64_okAppends tpMaxAckDelay tp.maxAckDelay) htail))))))))))
    (fun ⟨h1, h3, h4, h5, h6, h7, h8, h9, h10, h11, _, h20, hu⟩ =>
      ⟨by simp only [knownValues, List.forall_mem_cons]; exact ⟨h1, h3, h4, h5, h6, h7, h8, h9, h10, h11, h20,
        nofun⟩, hu⟩) ?_
  cases h : tp.disableActiveMigration <;>
    simp [h, entries, knownEntries, List.flatMap_append, List.flatMap_map, tlv]

-- ============================================================ decoding

/-- `set_unique_u64` on an empty slot reads a value back from its varint body. -/
theorem setUniqueU64_encoding {v : Nat} (hv : v ≤ quicVarintMax) (id : Nat) :
    setUniqueU64 none id (rfcVarint (varintLen v) v) = .ok (some v) := by
  have h := decodeVarint_encoding hv []
  rw [List.append_nil] at h
  simp [setUniqueU64, h, bind, Except.bind, pure, Except.pure]

/-- One pass of the decode loop over an entry `tlv` wrote at its position. -/
theorem decodeLoop_tlv {input rest : List UInt8} {pos : Nat} {tp : TransportParameters} {seen : List Nat}
    {e : Nat × List UInt8} (hfits : Fits e) (hd : input.drop pos = tlv e ++ rest) :
    TransportParameters.decodeLoop input pos tp seen =
      if e.1 ∈ seen then .error (.DuplicateTransportParameter e.1)
      else (tp.applyParameter e.1 e.2).bind fun tp' =>
        TransportParameters.decodeLoop input (pos + (tlv e).length) tp' (seen ++ [e.1]) := by
  obtain ⟨id, value⟩ := e
  obtain ⟨hid, hlen⟩ := hfits
  simp only [tlv, List.append_assoc] at hd ⊢
  have hdId := decodeVarint_encoding hid (rfcVarint (varintLen value.length) value.length ++ (value ++ rest))
  rw [← hd] at hdId
  have hdLen : input.drop (pos + varintLen id) = rfcVarint (varintLen value.length) value.length ++ (value ++ rest) := by
    rw [← List.drop_drop, hd, List.drop_left' (length_rfcVarint _ _)]
  have hdLen' := decodeVarint_encoding hlen (value ++ rest)
  rw [← hdLen] at hdLen'
  have hdVal : input.drop (pos + varintLen id + varintLen value.length) = value ++ rest := by
    rw [← List.drop_drop, hdLen, List.drop_left' (length_rfcVarint _ _)]
  have hpos : 0 < varintLen id := by
    rcases varintLen_mem id with h | h | h | h <;> omega
  have hlength : input.length = pos + varintLen id + varintLen value.length + value.length + rest.length := by
    have := congrArg List.length hd
    simp only [List.length_drop, List.length_append, length_rfcVarint] at this
    omega
  rw [TransportParameters.decodeLoop]
  rw [dif_pos (by omega)]
  split
  · next e he => rw [hdId] at he; cases he
  · next id' idLen hid' =>
    rw [hdId] at hid'
    obtain ⟨rfl, rfl⟩ := Prod.mk.inj (Except.ok.inj hid')
    simp only [hdLen', hdVal, List.take_left' rfl, if_neg (show ¬ (input.length -
      (pos + varintLen id + varintLen value.length) < value.length) by omega)]
    simp only [List.length_append, length_rfcVarint, Nat.add_assoc]
    split
    · rfl
    · cases tp.applyParameter id value <;> rfl

/-- One decoded parameter read into the parameters so far. -/
def TransportParameters.applyEntry (tp : TransportParameters) (e : Nat × List UInt8) :
    Except QuicCoreError TransportParameters :=
  tp.applyParameter e.1 e.2

/-- The decode loop over entries `tlv` wrote, each of a new id, to the
end of the input: it applies them in order. The induction is on the
entries, with the position, the parameters and the seen ids generalized. -/
theorem decodeLoop_entries {input : List UInt8} :
    ∀ (es : List (Nat × List UInt8)) {pos : Nat} {tp : TransportParameters} {seen : List Nat},
      (∀ e ∈ es, Fits e) → (seen ++ es.map Prod.fst).Nodup → input.drop pos = es.flatMap tlv →
      TransportParameters.decodeLoop input pos tp seen = es.foldlM TransportParameters.applyEntry tp
  | [], pos, tp, seen, _, _, hd => by
    have hend : input.length ≤ pos := by simpa using hd
    rw [TransportParameters.decodeLoop, dif_neg (by omega)]
    rfl
  | e :: es, pos, tp, seen, hfits, hnodup, hd => by
    rw [List.flatMap_cons] at hd
    rw [decodeLoop_tlv (hfits e (List.mem_cons_self ..)) hd]
    have hnew : e.1 ∉ seen := by
      rw [List.map_cons, List.nodup_append] at hnodup
      exact fun h => hnodup.2.2 e.1 h e.1 (List.mem_cons_self ..) rfl
    rw [if_neg hnew, List.foldlM_cons, show tp.applyEntry e = tp.applyParameter e.1 e.2 from rfl]
    -- the rest of the input holds the rest of the entries
    have hd' : input.drop (pos + (tlv e).length) = es.flatMap tlv := by
      rw [← List.drop_drop, hd, List.drop_left' rfl]
    have hnodup' : (seen ++ [e.1] ++ es.map Prod.fst).Nodup := by
      simpa only [List.map_cons, List.append_assoc, List.singleton_append] using hnodup
    cases tp.applyParameter e.1 e.2 with
    | error err => rfl
    | ok tp' =>
      exact decodeLoop_entries es (fun e' he' => hfits e' (List.mem_cons_of_mem _ he')) hnodup' hd'

-- ============================================================ applying the entries

/-- The ids `TransportParameters::decode` reads into a field of its own:
the `TP_*` constants. -/
def knownIds : List Nat :=
  [tpMaxIdleTimeout, tpMaxUdpPayloadSize, tpInitialMaxData, tpInitialMaxStreamDataBidiLocal,
    tpInitialMaxStreamDataBidiRemote, tpInitialMaxStreamDataUni, tpInitialMaxStreamsBidi,
    tpInitialMaxStreamsUni, tpAckDelayExponent, tpMaxAckDelay, tpDisableActiveMigration,
    tpMaxDatagramFrameSize]

/-- A parameter of any other id is kept as an unknown one, at the end. -/
theorem applyParameter_unknown {id : Nat} (h : id ∉ knownIds) (tp : TransportParameters) (value : List UInt8) :
    tp.applyParameter id value = .ok { tp with unknown := tp.unknown ++ [{ id, value }] } := by
  simp only [knownIds, List.mem_cons, List.not_mem_nil, or_false, not_or] at h
  obtain ⟨h1, h3, h4, h5, h6, h7, h8, h9, h10, h11, h12, h20⟩ := h
  simp only [TransportParameters.applyParameter, h1, h3, h4, h5, h6, h7, h8, h9, h10, h11, h12, h20, ↓reduceIte]
  rfl

theorem foldlM_unknown (tp : TransportParameters) :
    ∀ ps : List UnknownTransportParameter, (∀ p ∈ ps, p.id ∉ knownIds) →
      (ps.map fun p => (p.id, p.value)).foldlM TransportParameters.applyEntry tp =
        .ok { tp with unknown := tp.unknown ++ ps }
  | [], _ => by
    rw [List.append_nil]
    rfl
  | p :: ps, hps => by
    rw [List.map_cons, List.foldlM_cons]
    rw [show tp.applyEntry (p.id, p.value) = _ from applyParameter_unknown (hps p (List.mem_cons_self ..)) tp p.value]
    refine (foldlM_unknown _ ps fun q hq => hps q (List.mem_cons_of_mem _ hq)).trans ?_
    simp

/-- A known parameter, absent or present, read into an empty field: the
field takes the value. `upd` names the field. -/
theorem foldlM_knownEntry_append {acc : TransportParameters} {id : Nat} {slot : Option Nat}
    {rest : List (Nat × List UInt8)} (upd : TransportParameters → Option Nat → TransportParameters)
    (hnone : upd acc none = acc)
    (hsome : ∀ v, slot = some v → acc.applyParameter id (rfcVarint (varintLen v) v) = .ok (upd acc (some v))) :
    (knownEntry id slot ++ rest).foldlM TransportParameters.applyEntry acc =
      rest.foldlM TransportParameters.applyEntry (upd acc slot) := by
  cases slot with
  | none => rw [hnone]; rfl
  | some v =>
    rw [knownEntry, List.singleton_append, List.foldlM_cons]
    rw [show acc.applyEntry (id, rfcVarint (varintLen v) v) = _ from hsome v rfl]
    rfl

/-- The flag, absent or present, read into a clear flag. -/
theorem foldlM_flag_append {acc : TransportParameters} (b : Bool) {rest : List (Nat × List UInt8)}
    (hacc : acc.disableActiveMigration = false) :
    ((if b = true then [(tpDisableActiveMigration, [])] else []) ++ rest).foldlM
        TransportParameters.applyEntry acc =
      rest.foldlM TransportParameters.applyEntry { acc with disableActiveMigration := b } := by
  cases b with
  | false =>
    have hsame : { acc with disableActiveMigration := false } = acc := by
      cases acc
      simp only at hacc
      rw [hacc]
    rw [hsame]
    rfl
  | true =>
    simp only [↓reduceIte, List.singleton_append, List.foldlM_cons]
    have happ : acc.applyEntry (tpDisableActiveMigration, []) = .ok { acc with disableActiveMigration := true } := by
      simp +decide [TransportParameters.applyEntry, TransportParameters.applyParameter, hacc, pure, Except.pure]
    rw [happ]
    rfl

/-- The known entries read into the default parameters give every known
field back. Each step reads one field, in `encode`'s order. -/
theorem TransportParameters.foldlM_knownEntries {tp : TransportParameters}
    (hv : ∀ o ∈ tp.knownValues, ∀ v ∈ o, v ≤ quicVarintMax)
    (hudp : ∀ v ∈ tp.maxUdpPayloadSize, 1200 ≤ v) (hack : ∀ v ∈ tp.ackDelayExponent, v ≤ 20) :
    tp.knownEntries.foldlM applyEntry {} = .ok { tp with unknown := [] } := by
  simp only [knownValues, List.forall_mem_cons, List.not_mem_nil, IsEmpty.forall_iff, implies_true,
    and_true] at hv
  obtain ⟨h1, h3, h4, h5, h6, h7, h8, h9, h10, h11, h20⟩ := hv
  unfold knownEntries
  rw [← List.append_nil (knownEntry tpMaxDatagramFrameSize tp.maxDatagramFrameSize)]
  refine (foldlM_knownEntry_append (fun t o => { t with maxIdleTimeout := o }) rfl fun v hv => by
    simp +decide [applyParameter, bind, Except.bind, pure, Except.pure, setUniqueU64_encoding (h1 v hv)]).trans ?_
  refine (foldlM_knownEntry_append (fun t o => { t with maxUdpPayloadSize := o }) rfl fun v hv => by
    simp +decide [applyParameter, bind, Except.bind, pure, Except.pure, setUniqueU64_encoding (h3 v hv),
      Nat.not_lt.mpr (hudp v hv)]).trans ?_
  refine (foldlM_knownEntry_append (fun t o => { t with initialMaxData := o }) rfl fun v hv => by
    simp +decide [applyParameter, bind, Except.bind, pure, Except.pure, setUniqueU64_encoding (h4 v hv)]).trans ?_
  refine (foldlM_knownEntry_append (fun t o => { t with initialMaxStreamDataBidiLocal := o }) rfl fun v hv => by
    simp +decide [applyParameter, bind, Except.bind, pure, Except.pure, setUniqueU64_encoding (h5 v hv)]).trans ?_
  refine (foldlM_knownEntry_append (fun t o => { t with initialMaxStreamDataBidiRemote := o }) rfl fun v hv => by
    simp +decide [applyParameter, bind, Except.bind, pure, Except.pure, setUniqueU64_encoding (h6 v hv)]).trans ?_
  refine (foldlM_knownEntry_append (fun t o => { t with initialMaxStreamDataUni := o }) rfl fun v hv => by
    simp +decide [applyParameter, bind, Except.bind, pure, Except.pure, setUniqueU64_encoding (h7 v hv)]).trans ?_
  refine (foldlM_knownEntry_append (fun t o => { t with initialMaxStreamsBidi := o }) rfl fun v hv => by
    simp +decide [applyParameter, bind, Except.bind, pure, Except.pure, setUniqueU64_encoding (h8 v hv)]).trans ?_
  refine (foldlM_knownEntry_append (fun t o => { t with initialMaxStreamsUni := o }) rfl fun v hv => by
    simp +decide [applyParameter, bind, Except.bind, pure, Except.pure, setUniqueU64_encoding (h9 v hv)]).trans ?_
  refine (foldlM_knownEntry_append (fun t o => { t with ackDelayExponent := o }) rfl fun v hv => by
    simp +decide [applyParameter, bind, Except.bind, pure, Except.pure, setUniqueU64_encoding (h10 v hv),
      Nat.not_lt.mpr (hack v hv)]).trans ?_
  refine (foldlM_knownEntry_append (fun t o => { t with maxAckDelay := o }) rfl fun v hv => by
    simp +decide [applyParameter, bind, Except.bind, pure, Except.pure, setUniqueU64_encoding (h11 v hv)]).trans ?_
  refine (foldlM_flag_append tp.disableActiveMigration rfl).trans ?_
  refine (foldlM_knownEntry_append (fun t o => { t with maxDatagramFrameSize := o }) rfl fun v hv => by
    simp +decide [applyParameter, bind, Except.bind, pure, Except.pure, setUniqueU64_encoding (h20 v hv)]).trans ?_
  rfl

-- ============================================================ the round trip

theorem knownIds_le : ∀ id ∈ knownIds, id ≤ quicVarintMax := by decide

/-- A known entry has a known id and a body of at most eight bytes. -/
theorem mem_knownEntries {tp : TransportParameters} {e : Nat × List UInt8} (he : e ∈ tp.knownEntries) :
    e.1 ∈ knownIds ∧ e.2.length ≤ 8 := by
  have hknown : ∀ {id : Nat} {slot : Option Nat}, id ∈ knownIds → e ∈ knownEntry id slot →
      e.1 ∈ knownIds ∧ e.2.length ≤ 8 := by
    intro id slot hid he
    cases slot with
    | none => nomatch he
    | some v =>
      rw [knownEntry, List.mem_singleton] at he
      subst he
      refine ⟨hid, ?_⟩
      rw [length_rfcVarint]
      rcases varintLen_mem v with h | h | h | h <;> omega
  simp only [TransportParameters.knownEntries, List.mem_append] at he
  rcases he with he | he | he | he | he | he | he | he | he | he | he | he
  all_goals first
    | exact hknown (by decide) he
    | (split at he
       · rw [List.mem_singleton] at he
         subst he
         exact ⟨by decide, by decide⟩
       · nomatch he)

/-- Every entry a successful `encode` wrote has an id and a length that
fit a varint. -/
theorem TransportParameters.fits_entries {tp : TransportParameters} (he : tp.Encodable) :
    ∀ e ∈ tp.entries, Fits e := by
  intro e hmem
  rcases List.mem_append.mp hmem with hk | hu
  · obtain ⟨hid, hlen⟩ := mem_knownEntries hk
    exact ⟨knownIds_le _ hid, by unfold quicVarintMax; omega⟩
  · obtain ⟨p, hp, rfl⟩ := List.mem_map.mp hu
    exact he.2 p hp

/-- The known entries' ids are known ids, each at most once, in order. -/
theorem sublist_knownEntries (tp : TransportParameters) : (tp.knownEntries.map Prod.fst).Sublist knownIds := by
  have hone : ∀ (id : Nat) (slot : Option Nat), ((knownEntry id slot).map Prod.fst).Sublist [id] := by
    intro id slot
    cases slot with
    | none => exact List.nil_sublist _
    | some v => exact List.Sublist.refl _
  have hflag : (((if tp.disableActiveMigration = true then [(tpDisableActiveMigration, [])] else []) :
      List (Nat × List UInt8)).map Prod.fst).Sublist [tpDisableActiveMigration] := by
    split
    · exact List.Sublist.refl _
    · exact List.nil_sublist _
  simp only [TransportParameters.knownEntries, List.map_append]
  exact (hone _ _).append ((hone _ _).append ((hone _ _).append ((hone _ _).append ((hone _ _).append
    ((hone _ _).append ((hone _ _).append ((hone _ _).append ((hone _ _).append ((hone _ _).append
    (hflag.append (hone _ _)))))))))))

/-- No two entries `encode` writes share an id, when no two unknown
parameters do and none has a known id. -/
theorem TransportParameters.nodup_entries {tp : TransportParameters} (hids : (tp.unknown.map (·.id)).Nodup)
    (hunk : ∀ p ∈ tp.unknown, p.id ∉ knownIds) : (tp.entries.map Prod.fst).Nodup := by
  have hk := sublist_knownEntries tp
  rw [entries, List.map_append,
    show (tp.unknown.map fun p => (p.id, p.value)).map Prod.fst = tp.unknown.map (·.id) by simp]
  refine List.nodup_append.mpr ⟨hk.nodup (by decide), hids, ?_⟩
  intro a ha b hb hab
  obtain ⟨p, hp, rfl⟩ := List.mem_map.mp hb
  exact hunk p hp (hab ▸ hk.subset ha)

/-- What `TransportParameters::encode` wrote, `decode` reads back. -/
theorem TransportParameters.decode_of_encode {tp : TransportParameters} {out : List UInt8}
    (hrun : tp.encode.run [] = .ok () out)
    (hudp : ∀ v ∈ tp.maxUdpPayloadSize, 1200 ≤ v) (hack : ∀ v ∈ tp.ackDelayExponent, v ≤ 20)
    (hids : (tp.unknown.map (·.id)).Nodup) (hunk : ∀ p ∈ tp.unknown, p.id ∉ knownIds) :
    TransportParameters.decode out = .ok tp := by
  obtain ⟨he, rfl⟩ := tp.encode_okAppends [] () out hrun
  rw [List.nil_append, decode,
    decodeLoop_entries tp.entries (fits_entries he) (nodup_entries hids hunk) List.drop_zero, entries,
    List.foldlM_append, foldlM_knownEntries he.1 hudp hack]
  exact foldlM_unknown _ _ hunk

-- ============================================================ the wire codecs

theorem quic_wire_codecs_round_trip :
    (∀ (v : Nat) (buf : List UInt8), v ≤ quicVarintMax →
      (encodeVarint v).run buf = .ok () (buf ++ rfcVarint (varintLen v) v) ∧
      (varintLen v = 1 ∨ varintLen v = 2 ∨ varintLen v = 4 ∨ varintLen v = 8) ∧
      (∀ L, (L = 1 ∨ L = 2 ∨ L = 4 ∨ L = 8) → v < 2 ^ (8 * L - 2) → varintLen v ≤ L) ∧
      ∀ s, decodeVarint (rfcVarint (varintLen v) v ++ s) = .ok (v, varintLen v)) ∧
    (∀ (v : Nat) (buf : List UInt8), quicVarintMax < v →
      (encodeVarint v).run buf = .error (.VarIntOutOfRange v) buf) ∧
    (∀ (h : PacketHeader) (out s : List UInt8), h.encode.run [] = .ok () out → (∀ r, h = .Retry r → s = []) →
      PacketHeader.decode (out ++ s) h.dstCid.len = .ok (h, out.length)) ∧
    (∀ (tp : TransportParameters) (out : List UInt8),
      (∀ v ∈ tp.maxUdpPayloadSize, 1200 ≤ v) → (∀ v ∈ tp.ackDelayExponent, v ≤ 20) →
      (tp.unknown.map (·.id)).Nodup → (∀ p ∈ tp.unknown, p.id ∉ knownIds) →
      tp.encode.run [] = .ok () out → TransportParameters.decode out = .ok tp) := by
  refine ⟨fun v buf hv => ⟨?_, varintLen_mem v, fun L hL hlt => varintLen_le hL hlt, decodeVarint_encoding hv⟩,
    fun v buf hv => ?_, fun h out s hrun hs => ?_, fun tp out hudp hack hids hunk hrun => ?_⟩
  · have hrun := encodeVarint_appends v buf
    rwa [if_neg (Nat.not_lt.mpr hv)] at hrun
  · have hrun := encodeVarint_appends v buf
    rwa [if_pos hv] at hrun
  · obtain ⟨he, rfl⟩ := h.encode_okAppends [] () out hrun
    rw [List.nil_append]
    exact PacketHeader.decode_wire he s hs
  · exact TransportParameters.decode_of_encode hrun hudp hack hids hunk

theorem quic_wire_codecs_round_trip_rfc :
    decodeVarint ([0x9d, 0x7f, 0x3e, 0x7d] ++ [0x00]) = .ok (494878333, 4) ∧
    PacketHeader.decode ([0x41, 0x0a, 0x0b, 0x12, 0x34] ++ [0xff])
      2 = .ok (.Short ⟨false, false, ⟨[0x0a, 0x0b], by decide⟩, 0x1234, 2⟩, 5) ∧
    TransportParameters.decode [0x03, 0x02, 0x45, 0xdc, 0x0a, 0x01, 0x03] =
      .ok { maxUdpPayloadSize := some 1500, ackDelayExponent := some 3 } := by
  refine ⟨(quic_wire_codecs_round_trip.1 494878333 [] (by decide)).2.2.2 [0x00],
    quic_wire_codecs_round_trip.2.2.1 (.Short ⟨false, false, ⟨[0x0a, 0x0b], by decide⟩, 0x1234, 2⟩) _ [0xff] rfl nofun,
    quic_wire_codecs_round_trip.2.2.2 { maxUdpPayloadSize := some 1500, ackDelayExponent := some 3 } _
      (fun v hv => by cases hv; decide) (fun v hv => by cases hv; decide) List.nodup_nil nofun rfl⟩

end QuicCore

end Asupersync

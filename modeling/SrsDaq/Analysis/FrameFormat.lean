import SrsDaq.Analysis.CompactExportData
import SrsDaq.Analysis.DataProcessorLemmas
import SrsDaq.Analysis.DataStructsLemmas
import SrsDaq.Utils.ConnectionBaseLemmas

/-!
This module contains the frames as a data format: every frame is a header, a sequence of hits and
markers and a rest of less than one element, in exactly one way, and the decoding of it keeps all of
this but the rest and how the hits and the markers were interleaved.
-/

namespace Srs

theorem HitData.inRange_ofRaw (e : DataElementType) : (ofRaw e).InRange :=
  (ofRaw_decodedFrom e).inRange

theorem MarkerData.inRange_ofRaw (e : DataElementType) : (ofRaw e).InRange :=
  (ofRaw_decodedFrom e).inRange

namespace Frame

/--
What an element stands for. Values that do not fit into their bits are no items.
-/
inductive Item where
  | hit (data : HitData) (h : data.InRange)
  | marker (data : MarkerData) (h : data.InRange)

namespace Item

def toRaw : Item → DataElementType
  | .hit data _ => data.toRaw
  | .marker data _ => data.toRaw

def ofRaw (e : DataElementType) : Item :=
  if e.getLsbD flagBitPosition then
    .hit (HitData.ofRaw e) (HitData.inRange_ofRaw e)
  else
    .marker (MarkerData.ofRaw e) (MarkerData.inRange_ofRaw e)

def hit? : Item → Option HitData
  | .hit data _ => some data
  | .marker _ _ => none

def marker? : Item → Option MarkerData
  | .hit _ _ => none
  | .marker data _ => some data

theorem getLsbD_toRaw (item : Item) : item.toRaw.getLsbD 15 = item.hit?.isSome := by
  cases item with
  | hit data h =>
    rw [toRaw, hit?, Option.isSome_some]
    exact HitData.getLsbD_toRaw_flag h
  | marker data h =>
    rw [toRaw, hit?, Option.isSome_none]
    exact MarkerData.getLsbD_toRaw_flag h

theorem toRaw_ofRaw (e : DataElementType) : (ofRaw e).toRaw = e := by
  unfold ofRaw
  split
  . next hflag => exact HitData.toRaw_ofRaw hflag
  . next hflag => exact MarkerData.toRaw_ofRaw (Bool.eq_false_iff.mpr hflag)

theorem toRaw_injective {item item' : Item} (h : item.toRaw = item'.toRaw) : item = item' := by
  have hflag := congrArg (fun e => e.getLsbD 15) h
  simp only [getLsbD_toRaw] at hflag
  cases item with
  | hit data hrange =>
    cases item' with
    | hit data' hrange' =>
      simp only [toRaw] at h
      have hsame : data = data' := by
        rw [← HitData.ofRaw_toRaw hrange, h, HitData.ofRaw_toRaw hrange']
      subst hsame
      rfl
    | marker data' hrange' => cases hflag
  | marker data hrange =>
    cases item' with
    | hit data' hrange' => cases hflag
    | marker data' hrange' =>
      simp only [toRaw] at h
      have hsame : data = data' := by
        rw [← MarkerData.ofRaw_toRaw hrange, h, MarkerData.ofRaw_toRaw hrange']
      subst hsame
      rfl

theorem map_ofRaw_hits (items : List Item)
    : ((items.map toRaw).filter fun e => e.getLsbD 15).map HitData.ofRaw
        =
      items.filterMap hit? := by
  induction items with
  | nil => rfl
  | cons item items ih =>
    rw [List.map_cons, List.filter_cons, getLsbD_toRaw]
    cases item with
    | hit data h =>
      simp only [hit?, Option.isSome_some, if_true, List.map_cons, ih, List.filterMap_cons, toRaw,
        HitData.ofRaw_toRaw h]
    | marker data h =>
      simp only [hit?, Option.isSome_none, Bool.false_eq_true, if_false, ih, List.filterMap_cons]

theorem map_ofRaw_markers (items : List Item)
    : ((items.map toRaw).filter fun e => not (e.getLsbD 15)).map MarkerData.ofRaw
        =
      items.filterMap marker? := by
  induction items with
  | nil => rfl
  | cons item items ih =>
    rw [List.map_cons, List.filter_cons, getLsbD_toRaw]
    cases item with
    | hit data h =>
      simp only [hit?, Option.isSome_some, Bool.not_true, Bool.false_eq_true, if_false, ih, marker?,
        List.filterMap_cons]
    | marker data h =>
      simp only [hit?, Option.isSome_none, Bool.not_false, if_true, List.map_cons, ih, marker?,
        List.filterMap_cons, toRaw, MarkerData.ofRaw_toRaw h]

end Item

def encode (header : ReceiveDataHeader) (elements : ReceiveDataSquence) : List Byte :=
  header.toBytes ++ elements.flatMap fun e => Bytes.toBE (hitDataBitLength / 8) e.toNat

theorem length_body (elements : ReceiveDataSquence)
    : (elements.flatMap fun e => Bytes.toBE (hitDataBitLength / 8) e.toNat).length
        =
      6 * elements.length := by
  induction elements with
  | nil => rfl
  | cons e elements ih =>
    simp only [List.flatMap_cons, List.length_append, Bytes.length_toBE, ih, List.length_cons,
      hitDataBitLength]
    omega

theorem length_encode (header : ReceiveDataHeader) (elements : ReceiveDataSquence)
    : (encode header elements).length = 16 + 6 * elements.length := by
  rw [encode, List.length_append, ReceiveDataHeader.length_toBytes, length_body]

theorem header_encode (header : ReceiveDataHeader) (elements : ReceiveDataSquence)
    (rest : List Byte)
    : Frame.header (encode header elements ++ rest) = header := by
  have hsize : ReceiveDataHeader.sizeof = header.toBytes.length := by
    rw [ReceiveDataHeader.length_toBytes]
    rfl
  rw [Frame.header, encode, List.append_assoc, hsize, List.take_left,
    ReceiveDataHeader.ofBytes_toBytes]

theorem elements_encode (header : ReceiveDataHeader) (elements : ReceiveDataSquence)
    {rest : List Byte} (hrest : rest.length < 6)
    : Frame.elements (encode header elements ++ rest) = elements := by
  have hsize : ReceiveDataHeader.sizeof = header.toBytes.length := by
    rw [ReceiveDataHeader.length_toBytes]
    rfl
  have hcount : hitDataBitLength / 8 * ((6 * elements.length + rest.length) / (hitDataBitLength / 8))
      = 6 * elements.length := by
    simp only [hitDataBitLength]
    omega
  rw [Frame.elements, encode, List.append_assoc, hsize, List.drop_left,
    ← SerializableMsgBuffer.bigEndianElements_take, List.length_append, length_body, hcount,
    ← length_body, List.take_left]
  apply SerializableMsgBuffer.bigEndianElements_flatMap (by decide) (by decide)

theorem exportData_encode (header : ReceiveDataHeader) (items : List Item) {rest : List Byte}
    (hrest : rest.length < 6)
    : exportData (encode header (items.map Item.toRaw) ++ rest)
        =
      { header := header
        hitData := items.filterMap Item.hit?
        markerData := items.filterMap Item.marker? } := by
  unfold exportData hits markers
  rw [header_encode, elements_encode header _ hrest, Item.map_ofRaw_hits, Item.map_ofRaw_markers]

/-
The other way round.
-/

theorem toBytes_header {frame : List Byte} (h : 16 ≤ frame.length)
    : (header frame).toBytes = frame.take 16 := by
  have hword (start : Nat) (hstart : start + 4 ≤ 16)
      : Bytes.toBE 4 (Bytes.ofBE ((frame.drop start).take 4)) = (frame.drop start).take 4 := by
    have hlength : ((frame.drop start).take 4).length = 4 := by
      simp only [List.length_take, List.length_drop]
      omega
    have hbytes := Bytes.toBE_ofBE ((frame.drop start).take 4)
    rw [hlength] at hbytes
    exact hbytes
  have hid : [(header frame).fecId] = (frame.drop 7).take 1 := by
    rw [← Option.toList_some, fecId_header h, List.take_one, List.head?_drop]
  have hcounter : Bytes.toBE 4 (header frame).frameCounter.toNat = (frame.drop 0).take 4 := by
    rw [toNat_frameCounter, ← hword 0 (by omega), List.drop_zero]
  have htimestamp : Bytes.toBE 4 (header frame).udpTimestamp.toNat = (frame.drop 8).take 4 := by
    rw [← hword 8 (by omega)]
    apply congrArg (Bytes.toBE 4) (toNat_word frame 8 (by omega))
  have hoverflow : Bytes.toBE 4 (header frame).overflow.toNat = (frame.drop 12).take 4 := by
    rw [← hword 12 (by omega)]
    apply congrArg (Bytes.toBE 4) (toNat_word frame 12 (by omega))
  have hparts : frame.take (4 + (3 + (1 + (4 + 4))))
      = (frame.drop 0).take 4 ++ ((frame.drop 4).take 3 ++ ((frame.drop 7).take 1
        ++ ((frame.drop 8).take 4 ++ (frame.drop 12).take 4))) := by
    simp only [List.take_add, List.drop_drop, List.drop_zero]
  rw [ReceiveDataHeader.toBytes, hcounter, vmmTag_header h, htimestamp, hoverflow,
    ← List.singleton_append, hid, hparts]

theorem flatMap_elements (frame : List Byte)
    : ((elements frame).flatMap fun e => Bytes.toBE (hitDataBitLength / 8) e.toNat)
        =
      (frame.drop 16).take (6 * ((frame.length - 16) / 6)) := by
  have hgroups : ∀ group ∈ Bytes.groups 6 (frame.drop 16),
      Bytes.toBE 6 (BitVec.ofNat 48 (Bytes.ofBE group)).toNat = group := by
    intro group hgroup
    have hlength := Bytes.length_of_mem_groups hgroup
    have hbytes := @Bytes.toBE_ofNat_ofBE 48 group (by rw [hlength]; decide)
    rw [hlength] at hbytes
    exact hbytes
  have hflat : ((elements frame).flatMap fun e => Bytes.toBE (hitDataBitLength / 8) e.toNat)
      = ((Bytes.groups 6 (frame.drop 16)).map fun group =>
          Bytes.toBE 6 (BitVec.ofNat 48 (Bytes.ofBE group)).toNat).flatten := by
    rw [List.flatMap_def]
    apply congrArg List.flatten
    apply List.map_map
  rw [hflat, List.map_congr_left hgroups, List.map_id', Bytes.flatten_groups, List.length_drop,
    Nat.mul_comm]

theorem encode_completePart {frame : List Byte} (h : 16 ≤ frame.length)
    : encode (header frame) (elements frame) = completePart frame := by
  rw [encode, toBytes_header h, flatMap_elements, completePart, List.take_add]

theorem encode_injective {header header' : ReceiveDataHeader} {items items' : List Item}
    {rest rest' : List Byte} (hrest : rest.length < 6) (hrest' : rest'.length < 6)
    (h : encode header (items.map Item.toRaw) ++ rest
      = encode header' (items'.map Item.toRaw) ++ rest')
    : header = header' ∧ items = items' ∧ rest = rest' := by
  have hheader := congrArg Frame.header h
  rw [header_encode, header_encode] at hheader
  have helements := congrArg Frame.elements h
  rw [elements_encode _ _ hrest, elements_encode _ _ hrest'] at helements
  rw [hheader, helements] at h
  refine ⟨hheader, ?_, List.append_cancel_left h⟩
  apply List.map_injective_iff.mpr _ helements
  intro item item' hraw
  apply Item.toRaw_injective hraw

theorem exists_encode {frame : List Byte} (h : 16 ≤ frame.length)
    : ∃ (header : ReceiveDataHeader) (items : List Item) (rest : List Byte), rest.length < 6 ∧
        frame = encode header (items.map Item.toRaw) ++ rest := by
  refine ⟨header frame, (elements frame).map Item.ofRaw,
    frame.drop (16 + 6 * ((frame.length - 16) / 6)), ?_, ?_⟩
  . rw [List.length_drop]
    omega
  . have hraw : (elements frame).map (Item.toRaw ∘ Item.ofRaw) = elements frame := by
      apply List.map_id'' Item.toRaw_ofRaw
    rw [List.map_map, hraw, encode_completePart h, completePart, List.take_append_drop]

theorem header_take {n : Nat} (hn : 16 ≤ n) (frame : List Byte)
    : header (frame.take n) = header frame := by
  have hsize : ReceiveDataHeader.sizeof = 16 := by rfl
  rw [header, header, List.take_take, hsize, Nat.min_eq_left hn]

theorem elements_take (frame : List Byte) (n : Nat)
    : elements (frame.take (16 + n * 6)) = (elements frame).take n := by
  have hdrop : (frame.take (16 + n * 6)).drop 16 = (frame.drop 16).take (n * 6) := by
    rw [List.drop_take, Nat.add_sub_cancel_left]
  have helements : elements (frame.take (16 + n * 6))
      = SerializableMsgBuffer.bigEndianElements 48 ((frame.take (16 + n * 6)).drop 16) := by
    rfl
  rw [helements, hdrop, SerializableMsgBuffer.bigEndianElements, Bytes.groups_take_mul (by omega),
    List.map_take]
  rfl

theorem perm_elements (frame : List Byte)
    : (hits frame ++ markers frame).Perm (elements frame) :=
  List.filter_append_perm _ _

theorem map_eq_iff {α β : Type} {f : α → β} {g : β → α} {as as' : List α}
    (h : ∀ a ∈ as, g (f a) = a) (h' : ∀ a ∈ as', g (f a) = a)
    : as.map f = as'.map f ↔ as = as' := by
  have hback {as : List α} (h : ∀ a ∈ as, g (f a) = a) : (as.map f).map g = as := by
    rw [List.map_map]
    apply (List.map_congr_left h).trans (List.map_id as)
  constructor
  . intro hmap
    rw [← hback h, hmap, hback h']
  . intro has
    rw [has]

theorem toRaw_ofRaw_hits (frame : List Byte)
    : ∀ e ∈ hits frame, (HitData.ofRaw e).toRaw = e := by
  intro e he
  apply HitData.toRaw_ofRaw (List.mem_filter.mp he).2

theorem toRaw_ofRaw_markers (frame : List Byte)
    : ∀ e ∈ markers frame, (MarkerData.ofRaw e).toRaw = e := by
  intro e he
  apply MarkerData.toRaw_ofRaw
  simpa using (List.mem_filter.mp he).2

theorem exportData_eq_iff (frame frame' : List Byte)
    : exportData frame = exportData frame'
        ↔
      header frame = header frame' ∧ hits frame = hits frame' ∧ markers frame = markers frame' := by
  simp only [exportData, ExportData.mk.injEq]
  rw [map_eq_iff (toRaw_ofRaw_hits frame) (toRaw_ofRaw_hits frame'),
    map_eq_iff (toRaw_ofRaw_markers frame) (toRaw_ofRaw_markers frame')]
  exact and_congr_right fun _ => and_comm

end Frame

namespace DataProcessor

variable {W : Type} {zpp : ZppBits ReceiveDataHeader}

/--
Decoding gives back any header, hits and markers that a frame is made of, whatever short rest comes
behind them. And every frame is made of a header, hits, markers and a rest in exactly one way.
-/
theorem decodeFrame_round_trip (hzpp : zpp.Lawful ReceiveDataHeader.wireFormat)
    (processor : DataProcessor W) (hclear : processor.IsCleared)
    : (∀ (header : ReceiveDataHeader) (items : List Frame.Item) (rest : List Byte), rest.length < 6 →
        (Frame.encode header (items.map Frame.Item.toRaw) ++ rest).length ≤ maxSize →
        decodeFrame zpp ⟨Frame.encode header (items.map Frame.Item.toRaw) ++ rest⟩ processor
          =
        .returned { processor with
          exportData :=
            { header := header
              hitData := items.filterMap Frame.Item.hit?
              markerData := items.filterMap Frame.Item.marker? }
          receiveRawData := items.map Frame.Item.toRaw
          totalProcessedHitNumer := processor.totalProcessedHitNumer
            + BitVec.ofNat 64 (items.filterMap Frame.Item.hit?).length })
        ∧
      (∀ frame : List Byte, 16 ≤ frame.length →
        ∃! parts : ReceiveDataHeader × List Frame.Item × List Byte, parts.2.2.length < 6 ∧
          frame = Frame.encode parts.1 (parts.2.1.map Frame.Item.toRaw) ++ parts.2.2) := by
  constructor
  . intro header items rest hrest hsize
    have hlong : 16 ≤ (Frame.encode header (items.map Frame.Item.toRaw) ++ rest).length := by
      rw [List.length_append, Frame.length_encode]
      omega
    have hhits : (Frame.hits (Frame.encode header (items.map Frame.Item.toRaw) ++ rest)).length
        = (items.filterMap Frame.Item.hit?).length := by
      rw [← Frame.Item.map_ofRaw_hits, List.length_map, Frame.hits,
        Frame.elements_encode header _ hrest]
    have hdecode := decodeFrame_eq hzpp ⟨_, hsize⟩ hlong processor (by rw [hclear.exportData])
      (by rw [hclear.exportData])
    simp only [Frame.exportData_encode header items hrest, Frame.elements_encode header _ hrest,
      hhits] at hdecode
    exact hdecode
  . intro frame hframe
    rcases Frame.exists_encode hframe with ⟨header, items, rest, hrest, hparts⟩
    refine ⟨(header, items, rest), ⟨hrest, hparts⟩, ?_⟩
    rintro ⟨header', items', rest'⟩ ⟨hrest', hparts'⟩
    rcases Frame.encode_injective hrest hrest' (hparts.symm.trans hparts') with ⟨rfl, rfl, rfl⟩
    rfl

/--
A frame of a hit in front of a marker, and three bytes more.
-/
theorem decodeFrame_round_trip_example
    : ∃ decoded : DataProcessor Unit,
        decodeFrame (ZppBits.reference ReceiveDataHeader.wireFormat)
            ⟨Frame.encode { fecId := 3 } [HitData.toRaw { adc := 9 }, MarkerData.toRaw { vmmId := 2 }]
              ++ [1, 2, 3]⟩
            { dataWriter := () }
          =
        .returned decoded
          ∧
        decoded.exportData
          = { header := { fecId := 3 }, hitData := [{ adc := 9 }], markerData := [{ vmmId := 2 }] } := by
  have hhit : HitData.InRange { adc := 9 } := ⟨by decide, by decide, by decide, by decide, by decide⟩
  have hmarker : MarkerData.InRange { vmmId := 2 } := ⟨by decide, by decide⟩
  have hdecode := (decodeFrame_round_trip (ZppBits.reference_lawful _)
    ({ dataWriter := () } : DataProcessor Unit) (isCleared_mk _ _)).1 { fecId := 3 }
      [.hit { adc := 9 } hhit, .marker { vmmId := 2 } hmarker] [1, 2, 3] (by decide)
      (by simp [Frame.length_encode, maxSize])
  exact ⟨_, hdecode, rfl⟩

/--
The structs that are written for two frames are the same, in every format, if and only if the headers
are, the hits and the markers, each in their order. They tell the number of the elements but not how
hits and markers were interleaved, which the frames themselves do.
-/
theorem decodeFrame_loses_interleaving (hzpp : zpp.Lawful ReceiveDataHeader.wireFormat)
    (processor : DataProcessor W) (hclear : processor.IsCleared) (frame frame' : StdVector Byte)
    (hframe : 16 ≤ frame.size) (hframe' : 16 ≤ frame'.size)
    : let written (frame : StdVector Byte) : ExportData :=
        (decodeFrame zpp ⟨frame.toList⟩ processor).state.exportData
      (written frame = written frame' ↔
        Frame.header frame.toList = Frame.header frame'.toList ∧
        Frame.hits frame.toList = Frame.hits frame'.toList ∧
        Frame.markers frame.toList = Frame.markers frame'.toList) ∧
      (CompactExportData.setValue {} (written frame) = CompactExportData.setValue {} (written frame')
        ↔ written frame = written frame') ∧
      (written frame = written frame' →
        (Frame.elements frame.toList).Perm (Frame.elements frame'.toList)) ∧
      (Frame.completePart frame.toList = Frame.completePart frame'.toList ↔
        Frame.header frame.toList = Frame.header frame'.toList ∧
        Frame.elements frame.toList = Frame.elements frame'.toList) := by
  have hwritten (frame : StdVector Byte) (hframe : 16 ≤ frame.size)
      : (decodeFrame zpp ⟨frame.toList⟩ processor).state.exportData
        = Frame.exportData frame.toList := by
    rw [decodeFrame_eq hzpp frame hframe processor (by rw [hclear.exportData])
      (by rw [hclear.exportData])]
    rfl
  simp only [hwritten frame hframe, hwritten frame' hframe']
  have hiff := Frame.exportData_eq_iff frame.toList frame'.toList
  refine ⟨hiff, ?_, ?_, ?_⟩
  . constructor
    . intro h
      apply CompactExportData.setValue_injective h
    . intro h
      rw [h]
  . intro h
    rcases hiff.mp h with ⟨_, hhits, hmarkers⟩
    apply (Frame.perm_elements frame.toList).symm.trans
    rw [hhits, hmarkers]
    apply Frame.perm_elements
  . constructor
    . intro h
      rw [← Frame.header_completePart frame.toList, ← Frame.elements_completePart frame.toList, h,
        Frame.header_completePart, Frame.elements_completePart]
      exact ⟨rfl, rfl⟩
    . rintro ⟨hheader, helements⟩
      rw [← Frame.encode_completePart hframe, ← Frame.encode_completePart hframe', hheader,
        helements]

theorem decodeFrame_loses_interleaving_example
    : ∃ frame frame' : StdVector Byte, frame.toList ≠ frame'.toList ∧
        let written (frame : StdVector Byte) : ExportData :=
          (decodeFrame (ZppBits.reference ReceiveDataHeader.wireFormat) ⟨frame.toList⟩
            ({ dataWriter := () } : DataProcessor Unit)).state.exportData
        written frame = written frame' := by
  refine ⟨⟨Frame.encode {} [0x8000, 0x1], by simp [Frame.length_encode, maxSize]⟩,
    ⟨Frame.encode {} [0x1, 0x8000], by simp [Frame.length_encode, maxSize]⟩, by decide, ?_⟩
  apply (decodeFrame_loses_interleaving (ZppBits.reference_lawful _) _ (isCleared_mk _ _) _ _
    (by simp [StdVector.size, Frame.length_encode])
    (by simp [StdVector.size, Frame.length_encode])).1.mpr
  decide +kernel

/--
A datagram that is larger than the read buffer is cut off between two elements: nothing is made of
its rest, and nothing but its last elements is missing.
-/
theorem decodeFrame_asyncReceive (hzpp : zpp.Lawful ReceiveDataHeader.wireFormat)
    (connection : ConnectionBase largeReadMsgBufferSize) (datagram : List Byte)
    (hlong : 16 ≤ datagram.length) (processor : DataProcessor W) (hclear : processor.IsCleared)
    : let received := connection.asyncReceive datagram
      let frame := received.1.readMsg received.2
      frame.length = min datagram.length largeReadMsgBufferSize ∧
      (largeReadMsgBufferSize ≤ datagram.length → Frame.completePart frame = frame) ∧
      ∃ decoded, decodeFrame zpp (.ofSpan frame) processor = .returned decoded ∧
        decoded.exportData.header = Frame.header datagram ∧
        decoded.receiveRawData = (Frame.elements datagram).take 1664 := by
  have hsize : largeReadMsgBufferSize = 16 + 1664 * 6 := by rfl
  have hframe : (connection.asyncReceive datagram).1.readMsg (connection.asyncReceive datagram).2
      = datagram.take largeReadMsgBufferSize := by
    rw [← ConnectionBase.asyncReceive_take,
      ConnectionBase.readMsg_asyncReceive _ (List.length_take_le _ _)]
  have hlength : (datagram.take largeReadMsgBufferSize).length
      = min datagram.length largeReadMsgBufferSize := by
    rw [List.length_take, Nat.min_comm]
  simp only [hframe]
  refine ⟨hlength, ?_, ?_⟩
  . intro hover
    rw [Frame.completePart, hlength, Nat.min_eq_right hover]
    apply List.take_of_length_le
    rw [hlength]
    apply Nat.min_le_right
  . have hmax : (datagram.take largeReadMsgBufferSize).length ≤ maxSize := by
      rw [hlength]
      apply Nat.le_trans (Nat.min_le_right _ _)
      simp [largeReadMsgBufferSize, maxSize]
    refine ⟨_, decodeFrame_eq hzpp ⟨_, hmax⟩ (by rw [StdVector.size, hlength]; omega) processor
      (by rw [hclear.exportData]) (by rw [hclear.exportData]), ?_, ?_⟩
    . apply Frame.header_take (by omega)
    . simp only [hsize, Frame.elements_take]

theorem decodeFrame_asyncReceive_example
    : ∃ decoded : DataProcessor Unit,
        let received := ConnectionBase.asyncReceive (List.replicate 20000 1)
          (.ofInfo largeReadMsgBufferSize {})
        decodeFrame (ZppBits.reference ReceiveDataHeader.wireFormat)
            (.ofSpan (received.1.readMsg received.2)) { dataWriter := () }
          =
        .returned decoded
          ∧
        decoded.receiveRawData = (Frame.elements (List.replicate 20000 1)).take 1664 := by
  rcases (decodeFrame_asyncReceive (ZppBits.reference_lawful _)
      (.ofInfo largeReadMsgBufferSize {}) (List.replicate 20000 1)
      (by rw [List.length_replicate]; omega)
      ({ dataWriter := () } : DataProcessor Unit) (isCleared_mk _ _)).2.2
    with ⟨decoded, hdecoded, _, helements⟩
  exact ⟨decoded, hdecoded, helements⟩

end DataProcessor

end Srs

import SrsDaq.Analysis.DataProcessor
import SrsDaq.Utils.SerializerLemmas

/-!
This module contains what the analysis of frames computes: the decoding of one frame as a function
of its bytes alone, and the runs of the analysis over any number of frames.
-/

namespace Srs

/-
The decoding of a frame as a function of its bytes. Nothing here is translated from the program, it
is what the program is compared with.
-/
namespace Frame

def header (frame : List Byte) : ReceiveDataHeader :=
  ReceiveDataHeader.ofBytes (frame.take ReceiveDataHeader.sizeof)

def elements (frame : List Byte) : ReceiveDataSquence :=
  SerializableMsgBuffer.bigEndianElements hitDataBitLength (frame.drop ReceiveDataHeader.sizeof)

def hits (frame : List Byte) : List DataElementType :=
  (elements frame).filter fun element => element.getLsbD 15

def markers (frame : List Byte) : List DataElementType :=
  (elements frame).filter fun element => not (element.getLsbD 15)

def exportData (frame : List Byte) : ExportData where
  header := header frame
  hitData := (hits frame).map HitData.ofRaw
  markerData := (markers frame).map MarkerData.ofRaw

def completePart (frame : List Byte) : List Byte :=
  frame.take (16 + 6 * ((frame.length - 16) / 6))

theorem length_elements (frame : List Byte) : (elements frame).length = (frame.length - 16) / 6 := by
  simp only [elements, SerializableMsgBuffer.bigEndianElements, List.length_map,
    Bytes.length_groups, List.length_drop]
  rfl

theorem getElem?_elements (frame : List Byte) (i : Nat) (hi : i < (frame.length - 16) / 6)
    : (elements frame)[i]?
        =
      some (BitVec.ofNat 48 (Bytes.ofBE ((frame.drop (16 + 6 * i)).take 6))) := by
  have hi' : i < (frame.drop 16).length / 6 := by
    rw [List.length_drop]
    exact hi
  have hgroups : (Bytes.groups 6 (frame.drop 16))[i]?
      = some ((frame.drop (16 + 6 * i)).take 6) := by
    rw [Bytes.groups, List.getElem?_map, List.getElem?_range hi', Option.map_some, List.drop_drop,
      Nat.mul_comm i 6]
  have hmap : (elements frame)[i]?
      = (Bytes.groups 6 (frame.drop 16))[i]?.map fun group => BitVec.ofNat 48 (Bytes.ofBE group) :=
    List.getElem?_map
  rw [hmap, hgroups, Option.map_some]

theorem length_completePart {frame : List Byte} (h : 16 ≤ frame.length)
    : (completePart frame).length = 16 + 6 * ((frame.length - 16) / 6) := by
  simp only [completePart, List.length_take]
  omega

theorem header_completePart (frame : List Byte) : header (completePart frame) = header frame := by
  have hmin : min 16 (16 + 6 * ((frame.length - 16) / 6)) = 16 := by omega
  have htake : (completePart frame).take 16 = frame.take 16 := by
    rw [completePart, List.take_take, hmin]
  apply congrArg ReceiveDataHeader.ofBytes htake

theorem toNat_ofBE_word {bs : List Byte} (h : bs.length ≤ 4)
    : (BitVec.ofNat 32 (Bytes.ofBE bs)).toNat = Bytes.ofBE bs := by
  rw [BitVec.toNat_ofNat]
  apply Nat.mod_eq_of_lt
  apply Nat.lt_of_lt_of_le (Bytes.ofBE_lt bs)
  apply Nat.pow_le_pow_right (by omega) h

theorem toNat_frameCounter (frame : List Byte)
    : (header frame).frameCounter.toNat = Bytes.ofBE (frame.take 4) := by
  have hbytes : (frame.take ReceiveDataHeader.sizeof).take 4 = frame.take 4 := by
    rw [List.take_take]
    rfl
  simp only [header, ReceiveDataHeader.ofBytes]
  rw [hbytes]
  apply toNat_ofBE_word (List.length_take_le 4 frame)

theorem toNat_word (frame : List Byte) (start : Nat) (h : start + 4 ≤ 16)
    : (BitVec.ofNat 32 (Bytes.ofBE
          (((frame.take ReceiveDataHeader.sizeof).drop start).take 4))).toNat
        =
      Bytes.ofBE ((frame.drop start).take 4) := by
  have hbytes : ((frame.take ReceiveDataHeader.sizeof).drop start).take 4
      = (frame.drop start).take 4 := by
    rw [List.drop_take, List.take_take, Nat.min_eq_left]
    have : ReceiveDataHeader.sizeof = 16 := by rfl
    omega
  rw [hbytes]
  apply toNat_ofBE_word (List.length_take_le 4 _)

theorem getD_header {frame : List Byte} (h : 16 ≤ frame.length) (i : Nat) (hi : i < 16)
    : (frame.take ReceiveDataHeader.sizeof).getD i 0 = frame[i] := by
  have hsize : ReceiveDataHeader.sizeof = 16 := by rfl
  have hlt : i < frame.length := by omega
  rw [hsize, List.getD_eq_getElem?_getD, List.getElem?_take_of_lt hi, List.getElem?_eq_getElem hlt,
    Option.getD_some]

theorem vmmTag_header {frame : List Byte} (h : 16 ≤ frame.length)
    : (header frame).vmmTag.toList = (frame.drop 4).take 3 := by
  have htag : (header frame).vmmTag.toList.length = 3 := (header frame).vmmTag.length_toList
  apply List.ext_getElem
  . simp only [htag, List.length_take, List.length_drop]
    omega
  . intro i h1 h2
    rw [htag] at h1
    simp only [header, ReceiveDataHeader.ofBytes, Vector.getElem_toList, Vector.getElem_ofFn,
      List.getElem_take, List.getElem_drop]
    apply getD_header h (4 + i) (by omega)

theorem fecId_header {frame : List Byte} (h : 16 ≤ frame.length)
    : some (header frame).fecId = frame[7]? := by
  have hlt : 7 < frame.length := by omega
  rw [List.getElem?_eq_getElem hlt]
  apply congrArg some (getD_header h 7 (by omega))

theorem elements_completePart (frame : List Byte)
    : elements (completePart frame) = elements frame := by
  have hdrop : (completePart frame).drop 16
      = (frame.drop 16).take (48 / 8 * ((frame.drop 16).length / (48 / 8))) := by
    rw [completePart, List.drop_take, List.length_drop, Nat.add_sub_cancel_left]
  have helements : elements (completePart frame)
      = SerializableMsgBuffer.bigEndianElements 48 ((completePart frame).drop 16) := by
    rfl
  rw [helements, hdrop, SerializableMsgBuffer.bigEndianElements_take]
  rfl

end Frame

namespace DataProcessor

variable {W : Type} {zpp : ZppBits ReceiveDataHeader}

theorem foldl_translateElement (dataSeq : ReceiveDataSquence) (exportData : ExportData)
    : dataSeq.foldl translateElement exportData
        =
      { exportData with
        hitData := exportData.hitData
          ++ (dataSeq.filter fun element => element.getLsbD 15).map HitData.ofRaw
        markerData := exportData.markerData
          ++ (dataSeq.filter fun element => not (element.getLsbD 15)).map MarkerData.ofRaw } := by
  induction dataSeq generalizing exportData with
  | nil => simp
  | cons element dataSeq ih =>
    rw [List.foldl_cons, ih]
    cases h : element.getLsbD 15 with
    | true => simp [translateElement, checkIsHit, h]
    | false => simp [translateElement, checkIsHit, h]

theorem deserializeFrame_eq (hzpp : zpp.Lawful ReceiveDataHeader.wireFormat)
    (frame : StdVector Byte) (hframe : 16 ≤ frame.size) (processor : DataProcessor W)
    : deserializeFrame zpp ⟨frame.toList⟩ processor
        =
      .returned { processor with
        exportData := { processor.exportData with header := Frame.header frame.toList }
        receiveRawData := Frame.elements frame.toList } := by
  have hsize : ReceiveDataHeader.sizeof = ReceiveDataHeader.wireFormat.size := by rfl
  have hlt := frame.size_lt
  simp only [StdVector.size] at hframe hlt
  unfold deserializeFrame
  rw [hsize, SerializableMsgBuffer.deserialize_eq hzpp (by decide) (by decide) (by decide)]
  . rfl
  . simp only
    omega
  . exact hframe
  . simp only [hitDataBitLength, maxSize]
    omega

theorem decodeFrame_eq (hzpp : zpp.Lawful ReceiveDataHeader.wireFormat)
    (frame : StdVector Byte) (hframe : 16 ≤ frame.size) (processor : DataProcessor W)
    (hhits : processor.exportData.hitData = []) (hmarkers : processor.exportData.markerData = [])
    : decodeFrame zpp ⟨frame.toList⟩ processor
        =
      .returned { processor with
        exportData := Frame.exportData frame.toList
        receiveRawData := Frame.elements frame.toList
        totalProcessedHitNumer :=
          processor.totalProcessedHitNumer + BitVec.ofNat 64 (Frame.hits frame.toList).length } := by
  unfold decodeFrame
  rw [deserializeFrame_eq hzpp frame hframe]
  simp [translateRawData, foldl_translateElement, hhits, hmarkers, Frame.exportData, Frame.hits,
    Frame.markers]

/--
The decoding of a frame of at least 16 bytes never raises, whatever the header and the body held
before. It reads every field and every complete element of the frame from its place, and nothing
behind the last complete element.
-/
theorem decodeFrame_reads_frame (hzpp : zpp.Lawful ReceiveDataHeader.wireFormat)
    (frame : StdVector Byte) (hframe : 16 ≤ frame.size) (header : ReceiveDataHeader)
    (body : ReceiveDataSquence) (hitNumber : BitVec 64) (writer : W)
    : ∃ decoded : DataProcessor W,
        decodeFrame zpp ⟨frame.toList⟩
            { totalProcessedHitNumer := hitNumber, dataWriter := writer, receiveRawData := body,
              exportData := { header := header } }
          =
        .returned decoded
          ∧
        decodeFrame zpp ⟨Frame.completePart frame.toList⟩
            { totalProcessedHitNumer := hitNumber, dataWriter := writer, receiveRawData := body,
              exportData := { header := header } }
          =
        .returned decoded
          ∧
        decoded.exportData.header.frameCounter.toNat = Bytes.ofBE (frame.toList.take 4) ∧
        decoded.exportData.header.vmmTag.toList = (frame.toList.drop 4).take 3 ∧
        some decoded.exportData.header.fecId = frame.toList[7]? ∧
        decoded.exportData.header.udpTimestamp.toNat
          = Bytes.ofBE ((frame.toList.drop 8).take 4) ∧
        decoded.exportData.header.overflow.toNat = Bytes.ofBE ((frame.toList.drop 12).take 4) ∧
        decoded.receiveRawData.length = (frame.size - 16) / 6 ∧
        (∀ i, i < (frame.size - 16) / 6 →
          decoded.receiveRawData[i]?
            = some (BitVec.ofNat 48 (Bytes.ofBE ((frame.toList.drop (16 + 6 * i)).take 6)))) ∧
        decoded.exportData.hitData
          = (decoded.receiveRawData.filter fun e => e.getLsbD 15).map HitData.ofRaw ∧
        decoded.exportData.markerData
          = (decoded.receiveRawData.filter fun e => not (e.getLsbD 15)).map MarkerData.ofRaw := by
  have hlen : 16 ≤ frame.toList.length := hframe
  have hcomplete : (Frame.completePart frame.toList).length ≤ maxSize :=
    Nat.le_trans (List.length_take_le' _ _) frame.size_le
  have hcomplete16 : 16 ≤ (Frame.completePart frame.toList).length := by
    rw [Frame.length_completePart hlen]
    omega
  refine ⟨_, decodeFrame_eq hzpp frame hframe _ rfl rfl, ?_, ?_, ?_, ?_, ?_, ?_, ?_, ?_, ?_, ?_⟩
  . rw [decodeFrame_eq hzpp ⟨Frame.completePart frame.toList, hcomplete⟩ hcomplete16 _ rfl rfl]
    simp only [Frame.exportData, Frame.hits, Frame.markers, Frame.header_completePart,
      Frame.elements_completePart]
  . apply Frame.toNat_frameCounter frame.toList
  . apply Frame.vmmTag_header hlen
  . apply Frame.fecId_header hlen
  . apply Frame.toNat_word frame.toList 8 (by omega)
  . apply Frame.toNat_word frame.toList 12 (by omega)
  . apply Frame.length_elements frame.toList
  . exact fun i hi => Frame.getElem?_elements frame.toList i hi
  . rfl
  . rfl

/--
A frame of a hit, a marker and two bytes more, all of its bytes are different.
-/
def hitAndMarker : List Byte :=
  [0x01, 0x02, 0x03, 0x04, 0x05, 0x06, 0x07, 0x08, 0x09, 0x0a, 0x0b, 0x0c, 0x0d, 0x0e, 0x0f, 0x10,
    0x91, 0x12, 0x13, 0x14, 0x95, 0x16, 0x17, 0x18, 0x19, 0x1a, 0x1b, 0x1c, 0x1d, 0x1e]

/--
A frame of a marker and two hits.
-/
def markerAndHits : List Byte :=
  [0x21, 0x22, 0x23, 0x24, 0x25, 0x26, 0x27, 0x28, 0x29, 0x2a, 0x2b, 0x2c, 0x2d, 0x2e, 0x2f, 0x30,
    0x31, 0x32, 0x33, 0x34, 0x35, 0x36, 0x41, 0x42, 0x43, 0x44, 0xc5, 0x46, 0x51, 0x52, 0x53, 0x54,
    0xd5, 0x56]

theorem decodeFrame_reads_frame_example
    : ∃ decoded : DataProcessor Unit,
        decodeFrame (ZppBits.reference ReceiveDataHeader.wireFormat) ⟨hitAndMarker⟩
            { dataWriter := (), receiveRawData := [5], exportData := { header := { fecId := 9 } } }
          =
        .returned decoded
          ∧
        decoded.exportData.header.frameCounter.toNat = 0x01020304 ∧
        decoded.exportData.header.fecId = 0x08 ∧
        decoded.receiveRawData = [0x911213149516, 0x1718191a1b1c] ∧
        decoded.exportData.hitData = [HitData.ofRaw 0x911213149516] ∧
        decoded.exportData.markerData = [MarkerData.ofRaw 0x1718191a1b1c] := by
  have h := decodeFrame_reads_frame (ZppBits.reference_lawful _)
    ⟨hitAndMarker, by decide⟩ (by decide) { fecId := 9 } [5] 0 ()
  rcases h with
    ⟨decoded, hdecoded, _, hcounter, _, hfecId, _, _, hlength, helements, hhits, hmarkers⟩
  have hraw : decoded.receiveRawData = [0x911213149516, 0x1718191a1b1c] := by
    rcases List.length_eq_two.mp hlength with ⟨first, second, heq⟩
    have hfirst := helements 0 (by decide)
    have hsecond := helements 1 (by decide)
    rw [heq] at hfirst hsecond ⊢
    cases hfirst
    cases hsecond
    decide
  refine ⟨decoded, hdecoded, hcounter, Option.some.inj hfecId, hraw, ?_, ?_⟩
  . rw [hhits, hraw]
    rfl
  . rw [hmarkers, hraw]
    rfl

structure IsCleared (processor : DataProcessor W) : Prop where
  receiveRawData : processor.receiveRawData = []
  exportData : processor.exportData = {}

def writeDecoded (out : OutputInterface W) (frame : StdVector Byte) (writer : W) : Outcome W :=
  let toBinary : Outcome W :=
    if out.isBinary writer then
      out.writeBinary frame.toList writer
    else
      .returned writer
  toBinary.andThen fun writer =>
    if out.isStruct writer then
      out.writeStruct (Frame.exportData frame.toList) writer
    else
      .returned writer

theorem writeData_eq (out : OutputInterface W) (frame : StdVector Byte)
    (processor : DataProcessor W) (h : processor.exportData = Frame.exportData frame.toList)
    : writeData out ⟨frame.toList⟩ processor
        =
      (writeDecoded out frame processor.dataWriter).map fun writer =>
        { processor with dataWriter := writer } := by
  have hstruct (writer : W)
      : (if out.isStruct writer then
          (out.writeStruct processor.exportData writer).map fun writer =>
            { processor with dataWriter := writer }
        else
          .returned { processor with dataWriter := writer })
        =
      (if out.isStruct writer then
          out.writeStruct (Frame.exportData frame.toList) writer
        else
          .returned writer).map fun writer => { processor with dataWriter := writer } := by
    rw [h]
    split <;> rfl
  unfold writeData writeDecoded
  cases hbinary : out.isBinary processor.dataWriter with
  | false => simpa using hstruct processor.dataWriter
  | true =>
    cases hwrite : out.writeBinary frame.toList processor.dataWriter with
    | returned writer => simpa [hwrite] using hstruct writer
    | raised exception writer => simp

def analyseFrames (zpp : ZppBits ReceiveDataHeader) (out : OutputInterface W)
    (frames : List (StdVector Byte))
    : DataProcessor W → Outcome (DataProcessor W) :=
  Outcome.forEach (fun frame => analyseOneFrame zpp out ⟨frame.toList⟩) frames

def countHits (frames : List (StdVector Byte)) : Nat :=
  (frames.map fun frame => (Frame.hits frame.toList).length).sum

theorem analyseOneFrame_eq (hzpp : zpp.Lawful ReceiveDataHeader.wireFormat)
    (out : OutputInterface W) (frame : StdVector Byte) (hframe : 16 ≤ frame.size)
    (processor : DataProcessor W) (hclear : processor.IsCleared) (written : DataProcessor W)
    : analyseOneFrame zpp out ⟨frame.toList⟩ processor = .returned written
        ↔
      ∃ writer, writeDecoded out frame processor.dataWriter = .returned writer
        ∧ written =
          { totalProcessedHitNumer := processor.totalProcessedHitNumer
              + BitVec.ofNat 64 (Frame.hits frame.toList).length
            dataWriter := writer } := by
  unfold analyseOneFrame
  rw [decodeFrame_eq hzpp frame hframe]
  . simp only [Outcome.andThen_returned]
    rw [writeData_eq]
    . cases h : writeDecoded out frame processor.dataWriter with
      | returned writer =>
        simp only [Outcome.map_returned, Outcome.andThen_returned, clearDataBuffer,
          Outcome.returned.injEq, exists_eq_left']
        exact eq_comm
      | raised exception writer => simp
    . rfl
  . rw [hclear.exportData]
  . rw [hclear.exportData]

theorem isCleared_mk (hitNumber : BitVec 64) (writer : W)
    : ({ totalProcessedHitNumer := hitNumber, dataWriter := writer } : DataProcessor W).IsCleared where
  receiveRawData := by rfl
  exportData := by rfl

theorem analyseFrames_eq (hzpp : zpp.Lawful ReceiveDataHeader.wireFormat)
    (out : OutputInterface W) (frames : List (StdVector Byte))
    (hframes : ∀ frame, frame ∈ frames → 16 ≤ frame.size)
    (processor : DataProcessor W) (hclear : processor.IsCleared) (analysed : DataProcessor W)
    : analyseFrames zpp out frames processor = .returned analysed
        ↔
      ∃ writer, Outcome.forEach (writeDecoded out) frames processor.dataWriter = .returned writer
        ∧ analysed =
          { totalProcessedHitNumer := processor.totalProcessedHitNumer
              + BitVec.ofNat 64 (countHits frames)
            dataWriter := writer } := by
  induction frames generalizing processor with
  | nil =>
    rcases processor with ⟨hitNumber, writer, rawData, exportData⟩
    have hraw : rawData = [] := hclear.receiveRawData
    have hexport : exportData = {} := hclear.exportData
    simp only [analyseFrames, Outcome.forEach_nil, Outcome.returned.injEq, countHits, List.map_nil,
      List.sum_nil, BitVec.ofNat_eq_ofNat, BitVec.add_zero, exists_eq_left', hraw, hexport]
    exact eq_comm
  | cons frame frames ih =>
    have hframe : 16 ≤ frame.size := hframes frame (by simp)
    have hrest : ∀ f, f ∈ frames → 16 ≤ f.size := by
      intro f hf
      apply hframes
      simp [hf]
    have hcount (hitNumber : BitVec 64)
        : hitNumber + BitVec.ofNat 64 (Frame.hits frame.toList).length
            + BitVec.ofNat 64 (countHits frames)
          = hitNumber + BitVec.ofNat 64 (countHits (frame :: frames)) := by
      rw [BitVec.add_assoc, ← BitVec.ofNat_add]
      rfl
    simp only [analyseFrames, Outcome.forEach_cons, Outcome.andThen_eq_returned]
    constructor
    . rintro ⟨processor', hone, hmany⟩
      rw [analyseOneFrame_eq hzpp out frame hframe processor hclear] at hone
      rcases hone with ⟨writer', hwriter', rfl⟩
      rcases (ih hrest _ (isCleared_mk _ _)).mp hmany with ⟨writer, hwriter, rfl⟩
      exact ⟨writer, ⟨writer', hwriter', hwriter⟩, by rw [hcount]⟩
    . rintro ⟨writer, ⟨writer', hwriter', hwriter⟩, rfl⟩
      refine ⟨_, (analyseOneFrame_eq hzpp out frame hframe processor hclear _).mpr
        ⟨writer', hwriter', rfl⟩, ?_⟩
      apply (ih hrest _ (isCleared_mk _ _)).mpr
      exact ⟨writer, hwriter, by rw [hcount]⟩

/--
At every head of the loop, so after any number of the frames, the buffers are empty, every hit was
counted once, and the outputs stand where handing over the decoding of each frame alone leaves them.
-/
theorem analyseFrames_loop_head (hzpp : zpp.Lawful ReceiveDataHeader.wireFormat)
    (out : OutputInterface W) (frames : List (StdVector Byte))
    (hframes : ∀ frame, frame ∈ frames → 16 ≤ frame.size) (writer : W) (k : Nat)
    (analysed : DataProcessor W)
    : analyseFrames zpp out (frames.take k) { dataWriter := writer } = .returned analysed
        ↔
      Outcome.forEach (writeDecoded out) (frames.take k) writer = .returned analysed.dataWriter ∧
      analysed.IsCleared ∧
      analysed.totalProcessedHitNumer.toNat = countHits (frames.take k) % 2 ^ 64 := by
  have htake : ∀ frame, frame ∈ frames.take k → 16 ≤ frame.size := by
    intro frame hframe
    apply hframes frame (List.mem_of_mem_take hframe)
  rw [analyseFrames_eq hzpp out (frames.take k) htake _ (isCleared_mk _ _)]
  constructor
  . rintro ⟨writer', hwriter', rfl⟩
    refine ⟨hwriter', isCleared_mk _ _, ?_⟩
    simp
  . rintro ⟨hwriter', hclear, htotal⟩
    refine ⟨analysed.dataWriter, hwriter', ?_⟩
    rcases analysed with ⟨hitNumber, writer', rawData, exportData⟩
    have hraw : rawData = [] := hclear.receiveRawData
    have hexport : exportData = {} := hclear.exportData
    have hnumber : hitNumber = 0 + BitVec.ofNat 64 (countHits (frames.take k)) := by
      apply BitVec.eq_of_toNat_eq
      simpa using htotal
    rw [hraw, hexport, hnumber]

def recorder : OutputInterface (List ExportData) where
  isBinary _ := false
  isStruct _ := true
  writeBinary _ record := .returned record
  writeStruct data record := .returned (record ++ [data])

/--
After the second of three frames, nothing is left of the first one but its entry and its hit.
-/
theorem analyseFrames_loop_head_example
    : analyseFrames (ZppBits.reference ReceiveDataHeader.wireFormat) recorder
          [⟨hitAndMarker, by decide⟩, ⟨markerAndHits, by decide⟩] { dataWriter := [] }
        =
      .returned
        { totalProcessedHitNumer := 3
          dataWriter := [Frame.exportData hitAndMarker, Frame.exportData markerAndHits] } := by
  have hlong : ∀ frame : StdVector Byte,
      frame ∈ [⟨hitAndMarker, by decide⟩, ⟨markerAndHits, by decide⟩, ⟨hitAndMarker, by decide⟩] →
        16 ≤ frame.size := by
    simp [StdVector.size, hitAndMarker, markerAndHits]
  have h := analyseFrames_loop_head (ZppBits.reference_lawful _) recorder _ hlong [] 2
    { totalProcessedHitNumer := 3
      dataWriter := [Frame.exportData hitAndMarker, Frame.exportData markerAndHits] }
  exact h.mpr ⟨by rfl, isCleared_mk _ _, by decide +kernel⟩

end DataProcessor

end Srs

import SrsDaq.Analysis.DataWriter
import SrsDaq.Utils.Serializer

/-!
This module contains the analysis of one frame: its decoding into the buffers of the processor and
its handing over to the outputs.
-/

namespace Srs

structure OutputInterface (W : Type) where
  isBinary : W → Bool
  isStruct : W → Bool
  writeBinary : List Byte → W → Outcome W
  writeStruct : ExportData → W → Outcome W

def DataWriter.interface (env : Environment) : OutputInterface DataWriter where
  isBinary := DataWriter.isBinary
  isStruct := DataWriter.isStruct
  writeBinary := DataWriter.writeBinary env
  writeStruct := DataWriter.writeStruct env

structure DataProcessor (W : Type) where
  totalProcessedHitNumer : BitVec 64 := 0
  dataWriter : W
  receiveRawData : ReceiveDataSquence := []
  exportData : ExportData := {}

namespace DataProcessor

variable {W : Type}

def checkIsHit (element : DataElementType) : Bool :=
  element.getLsbD flagBitPosition

def deserializeFrame (zpp : ZppBits ReceiveDataHeader) (aFrame : SerializableMsgBuffer)
    (processor : DataProcessor W)
    : Outcome (DataProcessor W) :=
  (aFrame.deserialize zpp ReceiveDataHeader.sizeof processor.exportData.header
    processor.receiveRawData).map fun (header, body) =>
      { processor with
        exportData := { processor.exportData with header := header }
        receiveRawData := body }

def translateElement (exportData : ExportData) (element : DataElementType) : ExportData :=
  if checkIsHit element then
    { exportData with hitData := exportData.hitData ++ [HitData.ofRaw element] }
  else
    { exportData with markerData := exportData.markerData ++ [MarkerData.ofRaw element] }

def translateRawData (dataSeq : ReceiveDataSquence) (processor : DataProcessor W)
    : DataProcessor W :=
  let exportData := dataSeq.foldl translateElement processor.exportData
  { processor with
    exportData := exportData
    totalProcessedHitNumer :=
      processor.totalProcessedHitNumer + BitVec.ofNat 64 exportData.hitData.length }

def decodeFrame (zpp : ZppBits ReceiveDataHeader) (aFrame : SerializableMsgBuffer)
    (processor : DataProcessor W)
    : Outcome (DataProcessor W) :=
  -- The first half of `analyse_one_frame`.
  (deserializeFrame zpp aFrame processor).andThen fun processor =>
    .returned (translateRawData processor.receiveRawData processor)

def writeData (out : OutputInterface W) (aFrame : SerializableMsgBuffer)
    (processor : DataProcessor W)
    : Outcome (DataProcessor W) :=
  let toBinary : Outcome (DataProcessor W) :=
    if out.isBinary processor.dataWriter then
      (out.writeBinary aFrame.data processor.dataWriter).map fun dataWriter =>
        { processor with dataWriter := dataWriter }
    else
      .returned processor
  toBinary.andThen fun processor =>
    if out.isStruct processor.dataWriter then
      (out.writeStruct processor.exportData processor.dataWriter).map fun dataWriter =>
        { processor with dataWriter := dataWriter }
    else
      .returned processor

def clearDataBuffer (processor : DataProcessor W) : DataProcessor W :=
  { processor with
    exportData := { header := {}, markerData := [], hitData := [] }
    receiveRawData := [] }

def analyseOneFrame (zpp : ZppBits ReceiveDataHeader) (out : OutputInterface W)
    (aFrame : SerializableMsgBuffer) (processor : DataProcessor W)
    : Outcome (DataProcessor W) :=
  -- Printing the frame changes nothing and is left out.
  let decoded := decodeFrame zpp aFrame processor
  let written := decoded.andThen (writeData out aFrame)
  written.andThen fun processor => .returned (clearDataBuffer processor)

end DataProcessor

end Srs

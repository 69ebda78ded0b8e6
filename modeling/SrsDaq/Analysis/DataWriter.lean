import SrsDaq.Analysis.DataWriterOptions
import SrsDaq.Analysis.JsonWriter
import SrsDaq.Data.Path

/-!
This module contains the writing of frames to the outputs that are switched on.
-/

namespace Srs

structure Environment where
  hasRoot : Bool
  canOpen : String → Bool
  glaze : Glaze

structure OFStream where
  isOpen : Bool
  content : List Byte := []
  deriving DecidableEq, Repr

def OFStream.write (file : OFStream) (bytes : List Byte) : OFStream :=
  if file.isOpen then
    { file with content := file.content ++ bytes }
  else
    file

def outputKinds : List DataWriterOption.Option :=
  [.root, .json, .binary, .udp]

/--
The ROOT file is the list of the values that its tree was filled with.
-/
structure DataWriter where
  writeOption : DataWriterOption := .ofOption .noOutput
  outputFilenames : Columns outputKinds String := .empty outputKinds String
  binaryFile : Option OFStream := none
  jsonFile : Option JsonWriter := none
  rootFile : Option (List ExportData) := none

namespace DataWriter

def isBinary (writer : DataWriter) : Bool :=
  writer.writeOption.overlaps .binary || writer.writeOption.overlaps .udp

def isStruct (writer : DataWriter) : Bool :=
  writer.writeOption.overlaps .root || writer.writeOption.overlaps .json

def frontFilename (writer : DataWriter) (kind : DataWriterOption.Option) (h : kind ∈ outputKinds)
    : Option String :=
  (writer.outputFilenames.get kind h).head?

def setWriteOption (env : Environment) (option : DataWriterOption) (writer : DataWriter)
    : Outcome DataWriter :=
  if option.overlaps .root && not env.hasRoot then
    .raised (.runtimeError
      "DataWriter: cannot output to a root file. Please make sure srs-daq is built with ROOT library.")
      writer
  else
    .returned { writer with writeOption := option }

def checkIsIpAddress (makeAddress : List Char → Bool) (ipPort : List Char) : Bool :=
  -- `makeAddress` is whether the library of the sockets can parse the address.
  ipPort.contains ':' && makeAddress (ipPort.takeWhile (· != ':'))

def addOutputFilename (kind : DataWriterOption.Option) (h : kind ∈ outputKinds) (filename : String)
    (writer : DataWriter)
    : DataWriter :=
  { writer with
    outputFilenames := writer.outputFilenames.pushBack kind h filename
    writeOption := writer.writeOption.union (.ofOption kind) }

def setOutputFilename (env : Environment) (makeAddress : List Char → Bool) (filename : String)
    (writer : DataWriter)
    : Outcome DataWriter :=
  -- One round of the loop in `set_output_filenames`.
  let fileExt := Path.extension filename.toList
  if fileExt = ".bin".toList || fileExt = ".lmd".toList then
    .returned (writer.addOutputFilename .binary (by decide) filename)
  else if fileExt = ".root".toList then
    if env.hasRoot then
      .returned (writer.addOutputFilename .root (by decide) filename)
    else
      .returned writer
  else if fileExt = ".json".toList then
    .returned (writer.addOutputFilename .json (by decide) filename)
  else if checkIsIpAddress makeAddress filename.toList then
    .returned (writer.addOutputFilename .udp (by decide) filename)
  else
    .raised (.runtimeError "Error occured at DataWriter") writer

def setOutputFilenames (env : Environment) (makeAddress : List Char → Bool)
    (filenames : List String)
    : DataWriter → Outcome DataWriter :=
  Outcome.forEach (setOutputFilename env makeAddress) filenames

def writeBinaryFile (env : Environment) (readData : List Byte) (writer : DataWriter)
    : Outcome DataWriter :=
  let opened : Outcome DataWriter :=
    match writer.binaryFile with
    | some _ => .returned writer
    | none =>
      match writer.frontFilename .binary (by decide) with
      | none => .raised .undefinedBehaviour writer
      | some front => .returned { writer with binaryFile := some { isOpen := env.canOpen front } }
  opened.andThen fun writer =>
    .returned { writer with binaryFile := writer.binaryFile.map fun file => file.write readData }

def writeBinaryUdp (writer : DataWriter) : Outcome DataWriter :=
  .raised (.logicError
    "DataWriter: udp file output is not yet implemented. Please use other write options.") writer

def writeBinary (env : Environment) (readData : List Byte) (writer : DataWriter)
    : Outcome DataWriter :=
  let toFile : Outcome DataWriter :=
    if writer.writeOption.overlaps .binary then
      writeBinaryFile env readData writer
    else
      .returned writer
  let toUdp := toFile.andThen fun writer =>
    if writer.writeOption.overlaps .udp then
      writeBinaryUdp writer
    else
      .returned writer
  toUdp.andThen fun writer =>
    if not (writer.writeOption.overlaps .binary) && not (writer.writeOption.overlaps .udp) then
      .raised (.runtimeError
        "DataWriter: write_binary is called but write option is not set to either \"binary\" or \"udp\"")
        writer
    else
      .returned writer

def onJsonFile (f : JsonWriter → Outcome JsonWriter) (writer : DataWriter) : Outcome DataWriter :=
  match writer.jsonFile with
  | none => .raised .undefinedBehaviour writer
  | some jsonFile => (f jsonFile).map fun jsonFile => { writer with jsonFile := some jsonFile }

def openJsonFile (env : Environment) (writer : DataWriter) : Outcome DataWriter :=
  match writer.frontFilename .json (by decide) with
  | none => .raised .undefinedBehaviour writer
  | some front =>
    match JsonWriter.construct (env.canOpen front) with
    | .error exception => .raised exception writer
    | .ok jsonFile => .returned { writer with jsonFile := some jsonFile }

def writeStructJson (env : Environment) (dataStruct : ExportData) (writer : DataWriter)
    : Outcome DataWriter :=
  let first : Outcome DataWriter :=
    if writer.jsonFile.isNone then
      (openJsonFile env writer).andThen (onJsonFile (JsonWriter.write env.glaze dataStruct))
    else
      .returned writer
  let separated := first.andThen
    (onJsonFile fun jsonFile => .returned (jsonFile.writeString ",".toList))
  separated.andThen (onJsonFile (JsonWriter.write env.glaze dataStruct))

def writeStructRoot (env : Environment) (dataStruct : ExportData) (writer : DataWriter)
    : Outcome DataWriter :=
  if env.hasRoot then
    match writer.rootFile with
    | some entries => .returned { writer with rootFile := some (entries ++ [dataStruct]) }
    | none =>
      match writer.frontFilename .root (by decide) with
      | none => .raised .undefinedBehaviour writer
      | some _ => .returned { writer with rootFile := some [dataStruct] }
  else
    .returned writer

def writeStruct (env : Environment) (readData : ExportData) (writer : DataWriter)
    : Outcome DataWriter :=
  let toJson : Outcome DataWriter :=
    if writer.writeOption.overlaps .json then
      writeStructJson env readData writer
    else
      .returned writer
  let toRoot := toJson.andThen fun writer =>
    if writer.writeOption.overlaps .root then
      writeStructRoot env readData writer
    else
      .returned writer
  toRoot.andThen fun writer =>
    if not (writer.writeOption.overlaps .json) && not (writer.writeOption.overlaps .root) then
      .raised (.runtimeError
        "DataWriter: write_struct is called but write option is not set to either \"root\" or \"json\"")
        writer
    else
      .returned writer

def destructJsonFile (writer : DataWriter) : Option (List Char) :=
  writer.jsonFile.map JsonWriter.destruct

end DataWriter

end Srs

import SrsDaq.Analysis.JsonWriterLemmas

/-!
This module contains what the columns of a `CompactExportData` hold: the rows of the frame that was
set last, and no others.
-/

namespace Srs

namespace CompactExportData

def hitValue (hit : HitData) (key : String) : Nat :=
  match key with
  | "is_over_threshold" => hit.isOverThreshold.toNat
  | "channel_num" => hit.channelNum.toNat
  | "tdc" => hit.tdc.toNat
  | "offset" => hit.offset.toNat
  | "vmm_id" => hit.vmmId.toNat
  | "adc" => hit.adc.toNat
  | "bc_id" => hit.bcId.toNat
  | _ => 0

def markerValue (marker : MarkerData) (key : String) : Nat :=
  match key with
  | "vmm_id" => marker.vmmId.toNat
  | "srs_timestamp" => marker.srsTimestamp.toNat
  | _ => 0

theorem pushHit_ofFn (f : String → List (BitVec 16)) (hit : HitData)
    : pushHit (.ofFn hitKeys f) hit
        =
      .ofFn hitKeys fun key => f key ++ [BitVec.ofNat 16 (hitValue hit key)] := by
  unfold pushHit
  simp only [Columns.pushBack_ofFn]
  apply Columns.ofFn_congr
  intro key hkey
  simp only [hitKeys, List.mem_cons, List.not_mem_nil, or_false] at hkey
  rcases hkey with rfl | rfl | rfl | rfl | rfl | rfl | rfl
  case inr.inr.inr.inl => cases hover : hit.isOverThreshold <;> simp [hitValue, hover]
  all_goals simp [hitValue]

theorem foldl_pushHit (hits : List HitData) (f : String → List (BitVec 16))
    : hits.foldl pushHit (.ofFn hitKeys f)
        =
      .ofFn hitKeys fun key => f key ++ hits.map fun hit => BitVec.ofNat 16 (hitValue hit key) := by
  induction hits generalizing f with
  | nil => simp
  | cons hit hits ih => simp [pushHit_ofFn, ih]

theorem pushMarker_ofFn (f : String → List (BitVec 64)) (marker : MarkerData)
    : pushMarker (.ofFn markerKeys f) marker
        =
      .ofFn markerKeys fun key => f key ++ [BitVec.ofNat 64 (markerValue marker key)] := by
  unfold pushMarker
  simp only [Columns.pushBack_ofFn]
  apply Columns.ofFn_congr
  intro key hkey
  simp only [markerKeys, List.mem_cons, List.not_mem_nil, or_false] at hkey
  rcases hkey with rfl | rfl
  all_goals simp [markerValue]

theorem foldl_pushMarker (markers : List MarkerData) (f : String → List (BitVec 64))
    : markers.foldl pushMarker (.ofFn markerKeys f)
        =
      .ofFn markerKeys fun key =>
        f key ++ markers.map fun marker => BitVec.ofNat 64 (markerValue marker key) := by
  induction markers generalizing f with
  | nil => simp
  | cons marker markers ih => simp [pushMarker_ofFn, ih]

theorem hitValue_lt (hit : HitData) (key : String) : hitValue hit key < 2 ^ 16 := by
  have hover := Bool.toNat_lt hit.isOverThreshold
  unfold hitValue
  split <;> omega

theorem markerValue_lt (marker : MarkerData) (key : String) : markerValue marker key < 2 ^ 64 := by
  unfold markerValue
  split <;> omega

def Holds {keys : List String} {w : Nat} {ρ : Type} (columns : Columns keys (BitVec w))
    (value : ρ → String → Nat) (rows : List ρ) : Prop :=
  ∀ key h, (columns.get key h).map BitVec.toNat = rows.map fun row => value row key

theorem Holds.length {keys : List String} {w : Nat} {ρ : Type} {columns : Columns keys (BitVec w)}
    {value : ρ → String → Nat} {rows : List ρ} (hholds : Holds columns value rows) (key : String)
    (h : key ∈ keys)
    : (columns.get key h).length = rows.length := by
  have hlength := congrArg List.length (hholds key h)
  simpa using hlength

theorem Holds.getElem? {keys : List String} {w : Nat} {ρ : Type}
    {columns : Columns keys (BitVec w)} {value : ρ → String → Nat} {rows : List ρ}
    (hholds : Holds columns value rows) {i : Nat} {row : ρ} (hrow : rows[i]? = some row)
    (key : String) (h : key ∈ keys)
    : ∃ entry, (columns.get key h)[i]? = some entry ∧ entry.toNat = value row key := by
  have hentry := congrArg (fun column => column[i]?) (hholds key h)
  simp only [List.getElem?_map, hrow, Option.map_some, Option.map_eq_some_iff] at hentry
  exact hentry

theorem hitData_setValue (data : CompactExportData) (dataStruct : ExportData)
    : Holds (data.setValue dataStruct).hitData hitValue dataStruct.hitData := by
  intro key h
  simp only [setValue, fillHitData, fillMarkerData, Columns.clear_eq_empty, Columns.empty,
    foldl_pushHit, Columns.get_ofFn, List.nil_append, List.map_map]
  apply List.map_congr_left
  intro hit _
  simp only [Function.comp_apply, BitVec.toNat_ofNat]
  apply Nat.mod_eq_of_lt (hitValue_lt hit key)

theorem markerData_setValue (data : CompactExportData) (dataStruct : ExportData)
    : Holds (data.setValue dataStruct).markerData markerValue dataStruct.markerData := by
  intro key h
  simp only [setValue, fillHitData, fillMarkerData, Columns.clear_eq_empty, Columns.empty,
    foldl_pushMarker, Columns.get_ofFn, List.nil_append, List.map_map]
  apply List.map_congr_left
  intro marker _
  simp only [Function.comp_apply, BitVec.toNat_ofNat]
  apply Nat.mod_eq_of_lt (markerValue_lt marker key)

/-
The rows that the columns stand for.
-/

theorem setWidth_eq_of_toNat_eq {x : BitVec w} {y : BitVec v} (h : x.toNat = y.toNat)
    : x.setWidth v = y := by
  apply BitVec.eq_of_toNat_eq
  rw [BitVec.toNat_setWidth, h, Nat.mod_eq_of_lt y.isLt]

theorem Holds.getElem?_none {keys : List String} {w : Nat} {ρ : Type}
    {columns : Columns keys (BitVec w)} {value : ρ → String → Nat} {rows : List ρ}
    (hholds : Holds columns value rows) {i : Nat} (hrow : rows[i]? = none)
    (key : String) (h : key ∈ keys)
    : (columns.get key h)[i]? = none := by
  rw [List.getElem?_eq_none_iff] at hrow ⊢
  rw [hholds.length]
  exact hrow

theorem hitRow_eq {columns : Columns hitKeys (BitVec 16)} {hits : List HitData}
    (hholds : Holds columns hitValue hits) (i : Nat)
    : hitRow columns i = hits[i]? := by
  unfold hitRow
  cases hrow : hits[i]? with
  | none =>
    rw [hholds.getElem?_none hrow]
    rfl
  | some hit =>
    rcases hholds.getElem? hrow "is_over_threshold" (by decide) with ⟨isOverThreshold, h₁, hv₁⟩
    rcases hholds.getElem? hrow "channel_num" (by decide) with ⟨channelNum, h₂, hv₂⟩
    rcases hholds.getElem? hrow "tdc" (by decide) with ⟨tdc, h₃, hv₃⟩
    rcases hholds.getElem? hrow "offset" (by decide) with ⟨offset, h₄, hv₄⟩
    rcases hholds.getElem? hrow "vmm_id" (by decide) with ⟨vmmId, h₅, hv₅⟩
    rcases hholds.getElem? hrow "adc" (by decide) with ⟨adc, h₆, hv₆⟩
    rcases hholds.getElem? hrow "bc_id" (by decide) with ⟨bcId, h₇, hv₇⟩
    simp only [hitValue] at hv₁ hv₂ hv₃ hv₄ hv₅ hv₆ hv₇
    have hover : (isOverThreshold != 0#16) = hit.isOverThreshold := by
      cases hbit : hit.isOverThreshold with
      | false =>
        rw [hbit] at hv₁
        have hzero : isOverThreshold = 0 := BitVec.eq_of_toNat_eq hv₁
        simp [hzero]
      | true =>
        rw [hbit] at hv₁
        have hone : isOverThreshold = 1 := BitVec.eq_of_toNat_eq hv₁
        simp [hone]
    simp [h₁, h₂, h₃, h₄, h₅, h₆, h₇, hover, setWidth_eq_of_toNat_eq hv₂,
      setWidth_eq_of_toNat_eq hv₃, setWidth_eq_of_toNat_eq hv₄, setWidth_eq_of_toNat_eq hv₅,
      BitVec.eq_of_toNat_eq hv₆, BitVec.eq_of_toNat_eq hv₇]

theorem markerRow_eq {columns : Columns markerKeys (BitVec 64)} {markers : List MarkerData}
    (hholds : Holds columns markerValue markers) (i : Nat)
    : markerRow columns i = markers[i]? := by
  unfold markerRow
  cases hrow : markers[i]? with
  | none =>
    rw [hholds.getElem?_none hrow]
    rfl
  | some marker =>
    rcases hholds.getElem? hrow "vmm_id" (by decide) with ⟨vmmId, h₁, hv₁⟩
    rcases hholds.getElem? hrow "srs_timestamp" (by decide) with ⟨srsTimestamp, h₂, hv₂⟩
    simp only [markerValue] at hv₁ hv₂
    simp [h₁, h₂, setWidth_eq_of_toNat_eq hv₁, BitVec.eq_of_toNat_eq hv₂]

theorem setValue_injective {data data' : CompactExportData} {dataStruct dataStruct' : ExportData}
    (h : data.setValue dataStruct = data'.setValue dataStruct')
    : dataStruct = dataStruct' := by
  have hheader : dataStruct.header = dataStruct'.header := congrArg header h
  have hhits : dataStruct.hitData = dataStruct'.hitData := by
    apply List.ext_getElem?
    intro i
    rw [← hitRow_eq (hitData_setValue data dataStruct) i,
      ← hitRow_eq (hitData_setValue data' dataStruct') i, h]
  have hmarkers : dataStruct.markerData = dataStruct'.markerData := by
    apply List.ext_getElem?
    intro i
    rw [← markerRow_eq (markerData_setValue data dataStruct) i,
      ← markerRow_eq (markerData_setValue data' dataStruct') i, h]
  rcases dataStruct with ⟨header, markers, hits⟩
  rcases dataStruct' with ⟨header', markers', hits'⟩
  simp only at hheader hhits hmarkers
  rw [hheader, hhits, hmarkers]

/--
After any frames, the columns are those of the frame that was set last, and they determine it.
-/
theorem setValue_represents (data : CompactExportData) (earlier : List ExportData)
    (dataStruct : ExportData)
    : let data' := (earlier ++ [dataStruct]).foldl setValue data
      data'.header = dataStruct.header ∧
      data'.hitSize = dataStruct.hitData.length ∧
      data'.markerSize = dataStruct.markerData.length ∧
      (∀ key h, (data'.hitData.get key h).length = data'.hitSize) ∧
      (∀ key h, (data'.markerData.get key h).length = data'.markerSize) ∧
      Holds data'.hitData hitValue dataStruct.hitData ∧
      Holds data'.markerData markerValue dataStruct.markerData ∧
      (∀ i, hitRow data'.hitData i = dataStruct.hitData[i]?) ∧
      (∀ i, markerRow data'.markerData i = dataStruct.markerData[i]?) ∧
      data' = setValue {} dataStruct ∧
      ∀ earlier' dataStruct', (earlier' ++ [dataStruct']).foldl setValue data = data' →
        dataStruct' = dataStruct := by
  have hlast (earlier : List ExportData) (dataStruct : ExportData)
      : (earlier ++ [dataStruct]).foldl setValue data
          = (earlier.foldl setValue data).setValue dataStruct := by
    rw [List.foldl_append]
    rfl
  intro data'
  have hdata' : data' = (earlier.foldl setValue data).setValue dataStruct := hlast earlier dataStruct
  have hhits := hitData_setValue (earlier.foldl setValue data) dataStruct
  have hmarkers := markerData_setValue (earlier.foldl setValue data) dataStruct
  rw [← hdata'] at hhits hmarkers
  have hhitSize : data'.hitSize = dataStruct.hitData.length := by
    rw [hdata']
    rfl
  have hmarkerSize : data'.markerSize = dataStruct.markerData.length := by
    rw [hdata']
    rfl
  refine ⟨?_, hhitSize, hmarkerSize, ?_, ?_, hhits, hmarkers, hitRow_eq hhits, markerRow_eq hmarkers,
    ?_, ?_⟩
  . rw [hdata']
    rfl
  . intro key h
    rw [hhits.length, hhitSize]
  . intro key h
    rw [hmarkers.length, hmarkerSize]
  . rw [hdata', setValue_eq]
  . intro earlier' dataStruct' hsame
    rw [hlast, hdata'] at hsame
    apply setValue_injective hsame

end CompactExportData

end Srs

import CellularRegistration.Spelling

namespace CellularRegistration

/-- A radio access technology, in the order of the codes by which modems and carrier configurations
name technologies. -/
inductive RadioTechnology where
  | unknown
  | gprs
  | edge
  | umts
  | is95a
  | is95b
  | oneXRtt
  | evdo0
  | evdoA
  | hsdpa
  | hsupa
  | hspa
  | evdoB
  | ehrpd
  | lte
  | hspap
  | gsm
  | tdScdma
  | iwlan
  | lteCa
  | nr
deriving DecidableEq, Repr, Inhabited

/-- The access network that a radio technology runs on. -/
inductive AccessNetwork where
  | unknown
  | geran
  | utran
  | eutran
  | cdma2000
  | iwlan
  | ngran
deriving DecidableEq, Repr

/-- The name of an access network. -/
def AccessNetwork.name : AccessNetwork → String
  | .unknown => "Unknown"
  | .geran => "Geran"
  | .utran => "Utran"
  | .eutran => "Eutran"
  | .cdma2000 => "Cdma2000"
  | .iwlan => "Iwlan"
  | .ngran => "Ngran"

namespace RadioTechnology

/-- All technologies, each at the position that is its code. -/
def all : List RadioTechnology :=
  [unknown, gprs, edge, umts, is95a, is95b, oneXRtt, evdo0, evdoA, hsdpa, hsupa, hspa, evdoB, ehrpd,
    lte, hspap, gsm, tdScdma, iwlan, lteCa, nr]

theorem mem_all (t : RadioTechnology) : t ∈ all := by
  cases t <;> decide

/-- The code of a technology. -/
def code : RadioTechnology → Nat
  | unknown => 0
  | gprs => 1
  | edge => 2
  | umts => 3
  | is95a => 4
  | is95b => 5
  | oneXRtt => 6
  | evdo0 => 7
  | evdoA => 8
  | hsdpa => 9
  | hsupa => 10
  | hspa => 11
  | evdoB => 12
  | ehrpd => 13
  | lte => 14
  | hspap => 15
  | gsm => 16
  | tdScdma => 17
  | iwlan => 18
  | lteCa => 19
  | nr => 20

/-- The technology with this code, if there is one. -/
def ofCode? (code : Int) : Option RadioTechnology :=
  if code < 0 then none else all[code.toNat]?

@[simp]
theorem ofCode?_code (t : RadioTechnology) : ofCode? t.code = some t := by
  cases t <;> rfl

theorem ofCode?_eq_some_iff (n : Int) (t : RadioTechnology) :
    ofCode? n = some t ↔ (t.code : Int) = n := by
  constructor
  · intro h
    have hposition : ∀ i : Fin all.length, (all.get i).code = i := by decide
    unfold ofCode? at h
    split at h
    next => cases h
    next hpos =>
      obtain ⟨hi, rfl⟩ := List.getElem?_eq_some_iff.1 h
      have hcode : all[n.toNat].code = n.toNat := hposition ⟨n.toNat, hi⟩
      omega
  · rintro rfl
    exact ofCode?_code t

/-- The technology that a modem means by a code; a code outside the table means the unknown one. -/
def ofReported (code : Int32) : RadioTechnology :=
  (ofCode? code.toInt).getD unknown

theorem ofReported_eq_iff {t : RadioTechnology} (hknown : t ≠ unknown) (code : Int32) :
    ofReported code = t ↔ (t.code : Int) = code.toInt := by
  rw [← ofCode?_eq_some_iff, ofReported]
  cases ofCode? code.toInt with
  | none => simp [hknown.symm]
  | some other => simp

/-- The access network of a technology. -/
def accessNetwork : RadioTechnology → AccessNetwork
  | gprs | edge | gsm => .geran
  | umts | hsdpa | hsupa | hspa | hspap | tdScdma => .utran
  | is95a | is95b | oneXRtt | evdo0 | evdoA | evdoB | ehrpd => .cdma2000
  | lte | lteCa => .eutran
  | iwlan => .iwlan
  | nr => .ngran
  | unknown => .unknown

/-- The name under which a technology stands in data. -/
def keyword : RadioTechnology → String
  | unknown => "UNKNOWN"
  | gprs => "GPRS"
  | edge => "EDGE"
  | umts => "UMTS"
  | is95a => "IS95A"
  | is95b => "IS95B"
  | oneXRtt => "ONE_X_RTT"
  | evdo0 => "EVDO0"
  | evdoA => "EVDO_A"
  | hsdpa => "HSDPA"
  | hsupa => "HSUPA"
  | hspa => "HSPA"
  | evdoB => "EVDO_B"
  | ehrpd => "EHRPD"
  | lte => "LTE"
  | hspap => "HSPAP"
  | gsm => "GSM"
  | tdScdma => "TD_SCDMA"
  | iwlan => "IWLAN"
  | lteCa => "LTE_CA"
  | nr => "NR"

/-- The name by which people know a technology. -/
def displayName : RadioTechnology → String
  | unknown => "unknown"
  | gprs => "GPRS"
  | edge => "EDGE"
  | umts => "UMTS"
  | is95a => "IS95A"
  | is95b => "IS95B"
  | oneXRtt => "1xRTT"
  | evdo0 => "EvDo-rev.0"
  | evdoA => "EvDo-rev.A"
  | hsdpa => "HSDPA"
  | hsupa => "HSUPA"
  | hspa => "HSPA"
  | evdoB => "EvDo-rev.B"
  | ehrpd => "eHRPD"
  | lte => "LTE"
  | hspap => "HSPAP"
  | gsm => "GSM"
  | tdScdma => "TD-SCDMA"
  | iwlan => "IWLAN"
  | lteCa => "LTE-CA"
  | nr => "NR"

/-- Technologies in data. -/
def spelling : Spelling RadioTechnology where
  all := all
  name := keyword
  mem_all := mem_all
  eq_of_name_eq a b h := by
    have hcode : (all.find? fun t => keyword t == keyword a) = some a := by cases a <;> decide
    have hcode' : (all.find? fun t => keyword t == keyword b) = some b := by cases b <;> decide
    rw [h, hcode'] at hcode
    exact (Option.some.inj hcode).symm

end RadioTechnology

end CellularRegistration

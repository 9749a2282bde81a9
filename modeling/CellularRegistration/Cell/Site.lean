namespace CellularRegistration

/-- The numbers that tell a cell of a GSM network apart, in a report and in a record. -/
structure GsmSite where
  lac : Int32
  cid : Int32
  arfcn : Int32
  bsic : UInt8
deriving DecidableEq, Repr

/-- The numbers of a cell of a WCDMA network. -/
structure WcdmaSite where
  lac : Int32
  cid : Int32
  psc : Int32
  uarfcn : Int32
deriving DecidableEq, Repr

/-- The numbers of a cell of a TD-SCDMA network. -/
structure TdscdmaSite where
  lac : Int32
  cid : Int32
  cpid : Int32
deriving DecidableEq, Repr

/-- The numbers of a cell of an LTE network. -/
structure LteSite where
  ci : Int32
  pci : Int32
  tac : Int32
  earfcn : Int32
deriving DecidableEq, Repr

/-- The numbers of a cell of a 5G network. -/
structure NrSite where
  nci : Int64
  pci : Int32
  tac : Int32
  nrarfcn : Int32
deriving DecidableEq, Repr

/-- The numbers of a cell of a CDMA network, with its place on the map. -/
structure CdmaSite where
  networkId : Int32
  systemId : Int32
  baseStationId : Int32
  longitude : Int32
  latitude : Int32
deriving DecidableEq, Repr

end CellularRegistration

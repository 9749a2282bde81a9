namespace CellularRegistration.Payload

/-- The schema of a registration report. Up to 1.4 voice and data have schemas of their own. -/
inductive Revision where
  /-- Revision 1.5, for either domain. -/
  | unified
  | voiceV10
  | voiceV12
  | dataV10
  | dataV12
  | dataV14
deriving DecidableEq, Repr

namespace Revision

/-- The tag that names a revision in data. -/
def tag : Revision → String
  | unified => "1.5"
  | voiceV10 => "voice-1.0"
  | voiceV12 => "voice-1.2"
  | dataV10 => "data-1.0"
  | dataV12 => "data-1.2"
  | dataV14 => "data-1.4"

/-- The name that error messages give a revision. -/
def displayName : Revision → String
  | unified => "RegStateResult 1.5"
  | voiceV10 => "VoiceRegStateResult 1.0"
  | voiceV12 => "VoiceRegStateResult 1.2"
  | dataV10 => "DataRegStateResult 1.0"
  | dataV12 => "DataRegStateResult 1.2"
  | dataV14 => "DataRegStateResult 1.4"

end Revision

end CellularRegistration.Payload

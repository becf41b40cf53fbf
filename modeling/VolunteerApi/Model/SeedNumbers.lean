import VolunteerApi.Model.LocationReading

/-!
# `getSeed` in Numbers

The hash of `modules/requests/requests.service.ts` as it is computed: every number is a double, a
product is rounded, and `^` and `&` take their operands as 32-bit integers.  A text is the list
of its UTF-16 code units, which need not be those of any characters.
-/

set_option autoImplicit false

namespace VolunteerApi

abbrev CodeUnits := List (BitVec 16)

/-- What `charCodeAt` reads of a text, one after the other. -/
def codeUnits (str : String) : CodeUnits := (str.toList.flatMap charCodes).map (BitVec.ofNat 16)

namespace Numbers

/-- `ToInt32`: the integral part modulo `2 ^ 32`; an infinity and a NaN give zero. -/
def toInt32 (x : Float) : BitVec 32 := BitVec.ofInt 32 (x.toModel.unpack.toInt 0 0)

/-- The Number of a 32-bit integer. -/
def ofInt32 (bits : BitVec 32) : Float := Float.ofInt bits.toInt

/-- `left ^ right` -/
def bitXor (left right : Float) : Float := ofInt32 (toInt32 left ^^^ toInt32 right)

/-- `left & right` -/
def bitAnd (left right : Float) : Float := ofInt32 (toInt32 left &&& toInt32 right)

/-- `(hash * 33) ^ str.charCodeAt(i)` -/
def mixSeed (hash : Float) (charCode : BitVec 16) : Float :=
  bitXor (hash * 33) (Float.ofNat charCode.toNat)

/-- The variable `hash` after so much of the text. -/
def hashOf (str : CodeUnits) : Float := str.foldl mixSeed 5381

def getSeed (str : CodeUnits) : Float := bitAnd (hashOf str) 0x7fffffff

/-- `getSeed(str) / 0x7fffffff` -/
def seedRatio (str : CodeUnits) : Float := getSeed str / 0x7fffffff

def offsetMeters (str : CodeUnits) (obfuscationRadiusM : Float) : Float :=
  seedRatio str * obfuscationRadiusM

/-- The coordinates that `obfuscateLocation` answers, from its `lat`, `lng`, `angle` and
`offsetMeters`. -/
def displaced (lat lng angle offsetMeters : Float) : Float × Float :=
  let earthRadius : Float := 6371000
  let latOffset := offsetMeters / earthRadius * (180 / RequestsService.pi)
  let cosLat := Float.cos (lat * RequestsService.pi / 180)
  let lngOffset :=
    if cosLat != 0 then offsetMeters / earthRadius * (180 / RequestsService.pi) / cosLat else 0
  (lat + Float.cos angle * latOffset, lng + Float.sin angle * lngOffset)

end Numbers

end VolunteerApi

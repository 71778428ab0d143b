/-!
# Faults of packed bytes

What can be wrong with packed bytes.  Bytes that only end too early are no fault: what has been
unpacked up to there counts.
-/

namespace ResourceGraph.Packing

/-- Why bytes cannot be unpacked. -/
inductive Fault where
  | header
  | method
  | window
  /-- The bytes refer to a dictionary that is not at hand. -/
  | dictionary
  | headerFlags
  | headerSum
  | blockKind
  | storedLength
  | symbolCount
  /-- The code for the lengths of the other codes is malformed. -/
  | lengthCode
  | lengthRepeat
  | missingEnd
  | literalCode
  | distanceCode
  | literal
  | distance
  | farDistance
  | sum
  | totalLength
deriving DecidableEq, Repr

namespace Fault

/-- What is wrong, in words; a dictionary that is not at hand is nothing wrong. -/
def reason : Fault → String
  | dictionary => ""
  | header => "incorrect header check"
  | method => "unknown compression method"
  | window => "invalid window size"
  | headerFlags => "unknown header flags set"
  | headerSum => "header crc mismatch"
  | blockKind => "invalid block type"
  | storedLength => "invalid stored block lengths"
  | symbolCount => "too many length or distance symbols"
  | lengthCode => "invalid code lengths set"
  | lengthRepeat => "invalid bit length repeat"
  | missingEnd => "invalid code -- missing end-of-block"
  | literalCode => "invalid literal/lengths set"
  | distanceCode => "invalid distances set"
  | literal => "invalid literal/length code"
  | distance => "invalid distance code"
  | farDistance => "invalid distance too far back"
  | sum => "incorrect data check"
  | totalLength => "incorrect length check"

/-- The words that explain a fault. -/
def message : Fault → String
  | dictionary => "Error 2 while decompressing data"
  | fault => "Error -3 while decompressing data: " ++ fault.reason

end Fault

end ResourceGraph.Packing

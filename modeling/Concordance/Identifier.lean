/-!
# Identifiers and offsets
-/
namespace Concordance

/-- The identifier that a string is linked to. -/
abbrev LinkId := UInt64

/-- The position in the content log at which a record begins. It names the record for good. -/
abbrev Offset := UInt64

end Concordance

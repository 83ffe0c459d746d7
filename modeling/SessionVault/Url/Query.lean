import SessionVault.Url.Address
import SessionVault.Url.Basic

/-!
# Queries: names and values in a URL

A query is a list of names with values: an ampersand stands between two of them and an equals sign between a
name and its value.  A plus sign is a blank, and any octet may hide behind a percent sign.
-/

namespace SessionVault.Url

/-- A name or a value as it is meant. -/
def shownPart (bs : Bytes) : Bytes := percentDecode (bs.map fun b => if b = 0x2b then 0x20 else b)

def parameter (piece : Bytes) : Bytes × Bytes :=
  let (name, value) := piece.span (· ≠ 0x3d)
  (shownPart name, shownPart (value.drop 1))

def parameters (u : Url) : List (Bytes × Bytes) :=
  let pieces := cut (· == 0x26) (Bytes.ofString (u.query.getD ""))
  (pieces.filter (· ≠ [])).map parameter

/-- The value of a name in the query; the last one counts. -/
def parameter? (u : Url) (name : String) : Option Bytes :=
  u.parameters.reverse.lookup (Bytes.ofString name)

end SessionVault.Url

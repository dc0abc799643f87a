import DataAccess.Digest.Sha256
import DataAccess.Text.Utf8

/-!
# Migrations

A migration is a numbered script with an optional script that undoes it. Its checksum is the digest
of the script, taken when the migration is made.
-/

namespace DataAccess

/-- A migration. -/
structure Migration where
  version : Int64
  name : String
  up : String
  down : Option String
  checksum : String
deriving DecidableEq

namespace Migration

/-- The checksum of a script. -/
def checksumOf (sql : String) : String := Digest.sha256Hex (Text.utf8 sql.toList)

/-- A migration with the checksum of its script. -/
def ofScript (version : Int64) (name up : String) : Migration :=
  { version, name, up, down := none, checksum := checksumOf up }

/-- Add the script that undoes the migration. -/
def withDown (m : Migration) (sql : String) : Migration := { m with down := some sql }

/-- Whether the checksum is that of the script. -/
def hasTrueChecksum (m : Migration) : Bool := checksumOf m.up == m.checksum

end Migration

end DataAccess

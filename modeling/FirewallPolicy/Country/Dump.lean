import FirewallPolicy.Country.Range
import FirewallPolicy.Text.Quoted

/-!
# Database dumps of country ranges

A dump is a script for a PostgreSQL database: statements, then the rows of a table as lines of
tab-separated columns, and a line `\.` behind them.  Every range gives one row for each network that
covers it.
-/

namespace FirewallPolicy.Country

open FirewallPolicy.Calendar (DateTime)
open FirewallPolicy.Text (hexDigits)

/-- The statements in front of the rows. -/
def dumpHeader : List String :=
  ["SET statement_timeout = 0;", "SET lock_timeout = 0;",
    "SET idle_in_transaction_session_timeout = 0;", "SET client_encoding = 'UTF8';",
    "SET standard_conforming_strings = on;", "SET check_function_bodies = false;",
    "SET client_min_messages = warning;", "SET row_security = off;",
    "SET search_path = security, pg_catalog;",
    "COPY security.networks (uuid, network, registry, ctry, cntry, country, assigned, inserted) " ++
      "FROM stdin;"]

/-- The line behind the rows. -/
def dumpEnd : String := "\\."

/-- A character as it stands in a column. -/
def escapeChar (c : Char) : List Char :=
  if c = '\\' then ['\\', '\\']
  else if c = '\t' then ['\\', 't']
  else if c = '\n' then ['\\', 'n']
  else [c]

/-- A text as it stands in a column. -/
def escape (s : String) : String := String.ofList (s.toList.flatMap escapeChar)

/-- A number in the form of an identifier: 32 hexadecimal digits in five groups. -/
def uuidText (n : Nat) : String :=
  let ds := hexDigits 32 n
  String.ofList (ds.take 8 ++ '-' :: (ds.drop 8).take 4 ++ '-' :: (ds.drop 12).take 4 ++
    '-' :: (ds.drop 16).take 4 ++ '-' :: ds.drop 20)

/-- The columns of a row. -/
def row (uuid : String) (inserted : DateTime) (range : Range) (network : Address.Network) :
    List String :=
  [uuid, network.text, range.registry, range.shortCode, range.longCode, range.country,
    range.assigned.text, inserted.text]

/-- The columns of all rows; the identifiers are taken from their number in the dump. -/
def rows (uuid : Nat → String) (inserted : DateTime) (ranges : List Range) : List (List String) :=
  let blocks := ranges.flatMap fun range => range.networks.map fun network => (range, network)
  (blocks.zipIdx 1).map fun ((range, network), n) => row (uuid n) inserted range network

/-- A row as a line. -/
def rowText (columns : List String) : String := "\t".intercalate (columns.map escape)

/-- The dump of ranges. -/
def dump (uuid : Nat → String) (inserted : DateTime) (ranges : List Range) : String :=
  "\n".intercalate (dumpHeader ++ (rows uuid inserted ranges).map rowText ++ [dumpEnd]) ++ "\n"

end FirewallPolicy.Country

import StarFreight.Decimal.Power
import StarFreight.Store.Error
/-!
# Cli — first pages

The file of a database starts with a page that says what the file is and how it is
laid out, and on which the list of tables starts. `FirstPage.ofBytes` reads the
page of a file of which no more is known than its bytes: most are no databases,
some are damaged ones, and of those that are whole only such without tables are
told apart.
-/

namespace StarFreight

open Decimal

/-- What the first page says of a database without tables. -/
structure FirstPage where
  writable : Bool
  /-- Whether tables can be added to the list. -/
  extensible : Bool
deriving DecidableEq, Repr

namespace FirstPage

/-- What the file of a database starts with. -/
def mark : List UInt8 :=
  "SQLite format 3\x00".toUTF8.toList

/-- The number in as many bytes from a position on, the highest first; there are
zeros behind the end. -/
def number (bytes : List UInt8) (position count : Nat) : Nat :=
  (List.range count).foldl
    (fun n i => 256 * n + ((bytes[position + i]?).map UInt8.toNat).getD 0) 0

/-- The sizes that a page can have. -/
def pageSizes : List Nat :=
  [9, 10, 11, 12, 13, 14, 15, 16].map twoTo

/-- The size of a page; the greatest is written as a 1. -/
def pageSize (bytes : List UInt8) : Nat :=
  256 * number bytes 16 1 + 65536 * number bytes 17 1

/-- The part of a page that is used. -/
def usableSize (bytes : List UInt8) : Nat :=
  pageSize bytes - number bytes 20 1

/-- How many pages the file has room for. -/
def pagesPresent (bytes : List UInt8) : Nat :=
  (bytes.length + pageSize bytes - 1) / pageSize bytes

/-- How many pages there are: what the page says, if it was said with the last
change, and otherwise what the file has room for. -/
def pagesClaimed (bytes : List UInt8) : Nat :=
  let said := number bytes 28 4
  if said = 0 ∨ number bytes 24 4 ≠ number bytes 92 4 then pagesPresent bytes else said

/-- Whether bytes start a database: the mark and what never changes are there, and
a page has a size that it can have. -/
def isDatabase (bytes : List UInt8) : Bool :=
  bytes.take mark.length = mark
    && number bytes 19 1 ≤ 2
    && [21, 22, 23].map (number bytes · 1) = [64, 32, 32]
    && pageSizes.contains (pageSize bytes)

/-- The sign of a page that holds a part of the list of tables itself. -/
def leafSign : Nat := 13

/-- Whether there is room on the page between the list of tables, which grows up,
and what is said of each, which grows down. -/
def hasRoom (bytes : List UInt8) : Bool :=
  let top := if number bytes 105 2 = 0 then 65536 else number bytes 105 2
  let free := top + number bytes 107 1
  108 ≤ free && free ≤ usableSize bytes && number bytes 101 2 = 0

/-- The first page of a file with these bytes, if it is a database without tables. -/
def ofBytes (bytes : List UInt8) : Except DatabaseFault FirstPage :=
  if !isDatabase bytes then .error .foreign
  else if pagesPresent bytes < pagesClaimed bytes then .error .malformed
  else if usableSize bytes < 480 then .error .foreign
  else if 4 < number bytes 47 1 then .error .unknownFormat
  else if number bytes 100 1 ≠ leafSign ∨ number bytes 103 2 ≠ 0 then .error .malformed
  else
    .ok
      { writable := number bytes 18 1 ≤ 2
        extensible := hasRoom bytes && number bytes 36 4 = 0
          && (number bytes 52 4 = 0 || (number bytes 52 4 = 1 && pagesClaimed bytes = 1)) }

end FirstPage

end StarFreight

/-!
# Pages of a listing

A listing is cut into pages of at most 20 entries.  What a caller asks for is
mended rather than refused: an unusable page size becomes 20, an unusable page
number becomes 1, and a page past the end is empty.  All numbers have 64 bits,
and the number of skipped entries saturates instead of wrapping around.
-/

namespace OrderDesk

/-- The descriptor of one page. -/
structure Page where
  currentPage : Int64
  total : Int64
  totalPage : Int64
  limit : Int64
  skip : Int64
deriving DecidableEq, Repr

namespace Page

/-- The page size used when none, or one above it, is asked for. -/
def defaultLimit : Int64 := 20

/-- The page size in effect. -/
def effectiveLimit (limit : Int64) : Int64 :=
  if limit ≤ 0 ∨ defaultLimit < limit then defaultLimit else limit

/-- Multiplication whose result is held inside the 64-bit range. -/
def saturatingMul (a b : Int64) : Int64 :=
  let product := a.toInt * b.toInt
  if Int64.maxValue.toInt < product then Int64.maxValue
  else if product < Int64.minValue.toInt then Int64.minValue
  else Int64.ofInt product

/-- The page of a listing of `total` entries that answers a request. -/
def ofRequest (page limit total : Int64) : Page :=
  let limit := effectiveLimit limit
  let total := if total < 0 then 0 else total
  let totalPage := total / limit + (if total % limit = 0 then 0 else 1)
  let currentPage := if page < 1 ∨ totalPage = 0 then 1 else page
  { currentPage, total, totalPage, limit, skip := saturatingMul (currentPage - 1) limit }

/-- The entries on a page. -/
def cut {α : Type} (p : Page) (entries : List α) : List α :=
  (entries.drop p.skip.toInt.toNat).take p.limit.toInt.toNat

end Page
end OrderDesk

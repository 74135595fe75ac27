import FraudScreen.Payment.Transaction
import FraudScreen.Screening.Listing
import FraudScreen.Screening.Scanner

/-!
# Screeners

A screener keeps a list of patterns and a scanner. The scanner is used only while it was compiled from
the list as it stands; after a change of the list nothing is found until it is compiled again.
-/
namespace FraudScreen.Screening

open Payment (Transaction)

/-- The way to scan that was asked for. -/
inductive Request where
  | auto
  | accelerated
  | fallback
deriving DecidableEq, Repr

namespace Request

def name : Request → String
  | auto => "auto"
  | accelerated => "accelerated"
  | fallback => "fallback"

/-- ASCII capitals made small. -/
def lowered (s : String) : String := String.ofList (s.toList.map Char.toLower)

/-- Reads a request without regard to the case of ASCII letters. -/
def read? (s : String) : Except String Request :=
  match [auto, accelerated, fallback].find? (·.name = lowered s) with
  | some r => .ok r
  | none => .error ("unknown pattern backend: " ++ lowered s)

/-- The way that a request leads to. The accelerated way is always available. -/
def method : Request → Method
  | auto | accelerated => .accelerated
  | fallback => .fallback

end Request

/-- The fields of a transaction in which patterns are looked for. -/
def screenedFields (tx : Transaction) : List (String × String) :=
  [("ip_address", tx.device.ip), ("device_fingerprint", tx.device.fingerprint),
   ("user_agent", tx.device.userAgent), ("merchant_id", tx.purchase.merchantId),
   ("card_token", tx.card.token), ("issuer_country", tx.card.issuerCountry),
   ("card_brand", tx.card.brand), ("customer_id", tx.customer.id),
   ("currency", tx.purchase.currency), ("pos_entry_mode", tx.purchase.posEntryMode)]

/-- The values of the screened fields that are not empty. -/
def screenedTexts (tx : Transaction) : List String :=
  ((screenedFields tx).map (·.2)).filter (· ≠ "")

/-- What can go wrong with a screener. -/
inductive Fault where
  | unread (e : ReadFault)
  | uncompiled (e : CompileFault)
deriving DecidableEq, Repr

structure Screener where
  requested : Request
  scanner : Scanner
  patterns : List Pattern
  /-- A number greater than those of all patterns. -/
  nextId : UInt32
  /-- The scanner was compiled from the patterns as they stand. -/
  isCompiled : Bool
  /-- What went wrong last, unless the patterns were compiled since. -/
  lastError : Option Fault

namespace Screener

/-- A screener without patterns. -/
def new (r : Request) : Screener := ⟨r, .new r.method, [], 1, false, none⟩

/-- Replaces the patterns by those of two lists, numbered on from one to the other. If a list cannot be
read, the patterns stay. -/
def load (s : Screener) (blacklist whitelist : File) : Screener × Except ReadFault Unit :=
  let lists : Except ReadFault (List Pattern) := do
    let black ← readListFile blacklist "blacklist" 1
    let white ← readListFile whitelist "whitelist" (nextIdAfter black)
    return black ++ white
  match lists with
  | .ok ps => ({ s with patterns := ps, nextId := nextIdAfter ps, isCompiled := false }, .ok ())
  | .error e => ({ s with lastError := some (.unread e) }, .error e)

/-- The number after `id`, or `id` itself if it is the last. -/
def idAfter (id : UInt32) : UInt32 := if id = 4294967295 then id else id + 1

/-- Adds a pattern. -/
def add (s : Screener) (p : Pattern) : Screener :=
  { s with
    patterns := s.patterns ++ [p]
    nextId := max s.nextId (idAfter p.id)
    isCompiled := false }

/-- Compiles the patterns as they stand. If a builder gives up, the scanner keeps what it had, and is not used any
more. -/
def compile (s : Screener) (b : Builders) : Screener × Except CompileFault CompileReport :=
  match s.scanner.build b s.patterns with
  | .ok (scanner, report) => ({ s with scanner, isCompiled := true, lastError := none }, .ok report)
  | .error e => ({ s with isCompiled := false, lastError := some (.uncompiled e) }, .error e)

/-- What is found in one text. -/
def scan (s : Screener) (text : String) (category : Option String) : Screener × Findings :=
  if s.isCompiled then
    let (scanner, found) := s.scanner.scan text category
    ({ s with scanner }, found)
  else (s, .empty)

/-- What is found in several texts. -/
def scanAll (s : Screener) (texts : List String) (category : Option String) : Screener × Findings :=
  if s.isCompiled then
    let (scanner, found) := s.scanner.scanAll texts category
    ({ s with scanner }, found)
  else (s, .empty)

/-- What is found in the fields of a transaction, all of which count as processed. -/
def screen (s : Screener) (tx : Transaction) : Screener × Findings :=
  if s.isCompiled then
    let (scanner, found) := s.scanner.scanEach none .empty (screenedTexts tx)
    ({ s with scanner }, { found with textsProcessed := (screenedFields tx).length })
  else (s, .empty)

def resetScans (s : Screener) : Screener := { s with scanner := s.scanner.resetScans }

end Screener

end FraudScreen.Screening

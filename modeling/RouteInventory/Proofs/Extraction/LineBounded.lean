import RouteInventory.Extraction
import RouteInventory.Proofs.Extraction.Secrets
import RouteInventory.Proofs.Pattern.Cut

/-!
What is found line by line. No class of the patterns for environment variables, bare URLs and
headers holds a newline, and secrets are looked for in one line at a time, so these categories of a
text that is cut at a newline are those of its two parts (`extract_append_newline`).
-/

namespace RouteInventory

open Extraction Pattern

variable {u v : List Char}

theorem urlsIn_eq (file : String) (text : Array Char) :
    urlsIn file text = (barePathLiteral.groupTexts 0 text).map fun url =>
      ⟨.ofList (url.filter (!isQuote ·)), file⟩ := by
  have hwhole : (fun m : Match => m.groupText text 0) = some ∘ fun m => m.whole.slice text := rfl
  rw [urlsIn, groupTexts, hwhole, List.filterMap_eq_map, List.map_map]
  rfl

theorem urlsIn_cut (file : String) :
    urlsIn file (u ++ '\n' :: v).toArray = urlsIn file u.toArray ++ urlsIn file v.toArray := by
  have hp : barePathLiteral.avoids '\n' = true := by decide
  rw [urlsIn_eq, groupTexts_cut hp, List.map_append, ← urlsIn_eq, ← urlsIn_eq]

theorem envVarsIn_cut :
    envVarsIn (u ++ '\n' :: v).toArray = envVarsIn u.toArray ++ envVarsIn v.toArray := by
  have hp : envAccess.avoids '\n' = true := by decide
  rw [envVarsIn, groupTexts_cut hp, List.map_append, ← envVarsIn, ← envVarsIn]

theorem headersIn_cut :
    headersIn (u ++ '\n' :: v).toArray =
      (headersIn u.toArray).insertAll (headersIn v.toArray).items := by
  have hp : headerAccess.avoids '\n' = true := by decide
  rw [headersIn, groupTexts_cut hp, uniqueNames, List.map_append, OrderedSet.ofList_append]
  rfl

/-- Environment variables and URLs of two texts with a newline between them are those of the first
    and then those of the second; headers and secrets are those of the first and then the new ones
    of the second. -/
theorem extract_append_newline (rules : SecretRules) (file a b : String) :
    let first := extract rules file a
    let second := extract rules file b
    let whole := extract rules file (a ++ "\n" ++ b)
    whole.envVars = first.envVars ++ second.envVars ∧
    whole.otherUrls = first.otherUrls ++ second.otherUrls ∧
    whole.headers = first.headers.insertAll second.headers.items ∧
    whole.secrets = first.secrets.insertAll second.secrets.items := by
  have hchars : (a ++ "\n" ++ b).toList = a.toList ++ '\n' :: b.toList := by simp
  simp only [extract, hchars]
  exact ⟨envVarsIn_cut, urlsIn_cut file, headersIn_cut, rules.find_append a.toList b.toList⟩

end RouteInventory

import ProjectCheck.Path
import ProjectCheck.Text.Lowercase
import ProjectCheck.Text.Place

/-!
# Import specifiers

What a specifier names, judged by its text: a relative path, a module of the platform, an asset, or
a module that is known to be missing often.
-/

namespace ProjectCheck.Import

open ProjectCheck.Text

/-- Whether a specifier is a path relative to the importing file. -/
def isRelative (specifier : String) : Bool :=
  (afterOneOf? ["./", "../"] specifier.toList).isSome

/-- The modules that come with the platform. -/
def platformModules : List String :=
  ["fs", "path", "http", "https", "crypto", "stream", "events", "util", "os"]

/-- Whether a specifier names a module of the platform. -/
def isPlatformModule (specifier : String) : Bool :=
  (afterPrefix? "node:".toList specifier.toList).isSome ||
    match pieces '/' specifier.toList with
    | first :: _ => platformModules.contains (String.ofList first)
    | [] => false

/-- The extensions of style sheets, images and fonts. -/
def assetExtensions : List String :=
  [".css", ".scss", ".sass", ".less", ".svg", ".png", ".jpg", ".jpeg", ".gif", ".webp", ".woff",
   ".woff2", ".ttf", ".eot"]

/-- Whether a specifier names an asset; what follows a question mark does not matter. -/
def isAsset (specifier : String) : Bool :=
  let path := lower (specifier.toList.takeWhile (· != '?'))
  assetExtensions.any fun extension => extension.toList.isSuffixOf path

/-- Modules that are often imported without being there. -/
def doubtfulModules : List String :=
  ["@/lib/store", "@/lib/types", "framer-motion", "react-spring"]

/-- Where the components of the interface library live. -/
def interfaceLibrary : String :=
  "@/components/ui/"

/-- The components of the interface library that are normally there. -/
def interfaceComponents : List String :=
  ["button", "dialog", "input", "card", "badge", "alert", "form", "table", "select", "textarea",
   "checkbox", "radio", "switch", "slider", "tabs", "accordion", "carousel", "calendar", "command",
   "popover", "tooltip", "dropdown", "navigation", "sidebar", "toggle", "separator", "scroll-area",
   "sheet", "skeleton", "avatar", "progress", "spinner", "toast", "sonner"]

/-- Whether a text is another one, perhaps with a line feed behind it. -/
def isLineOf (line s : List Char) : Bool :=
  s == line || s == line ++ ['\n']

/-- Whether a specifier names a module that is often missing. -/
def isDoubtful (specifier : String) : Bool :=
  let s := specifier.toList
  doubtfulModules.any (fun name => isLineOf name.toList s) ||
    ((afterPrefix? interfaceLibrary.toList s).isSome &&
      !(interfaceComponents.any fun name => occursIn name.toList s))

end ProjectCheck.Import

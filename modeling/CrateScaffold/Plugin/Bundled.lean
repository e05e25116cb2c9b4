import CrateScaffold.Native.Library
import CrateScaffold.Plugin.Basic
import CrateScaffold.Template.Named

/-!
The plugins that come with the program: the files of the build tool, and the object that loads the
native library.
-/

namespace CrateScaffold.Plugin

def gradleVersion : Text := "8.3"

def gradleFiles (b : Brief) : Reading (List Contribution) := do
  let context := Template.Library.contextOf b.coordinates ++
    [("gradle_version".toList, .text gradleVersion)]
  let script ← b.templates.renderBuildScript b.coordinates
  let settings ← b.templates.render "gradle/settings.gradle.kts" context
  let properties ← b.templates.render "gradle/gradle.properties" context
  let wrapper ← b.templates.render "gradle/gradle-wrapper.properties" context
  return [
    .ofText "build.gradle.kts" script,
    .ofText "settings.gradle.kts" settings,
    .ofText "gradle.properties" properties,
    .ofText "gradle/wrapper/gradle-wrapper.properties" wrapper]

def gradle : Plugin := ⟨"jni_cli.plugins.bundled.gradle", "jni_cli.plugins.bundled.gradle",
  gradleFiles⟩

def libraryName (b : Brief) : Value :=
  match b.crate with
  | some crate => crate.libName
  | none => .text (Text.mapChar '-' '_' b.coordinates.package)

def libraryPath (c : Coordinates) : Text :=
  "src/main/kotlin/" ++ c.groupPath ++ '/' :: c.package ++ "/Library.kt"

def kotlinFiles (b : Brief) : Reading (List Contribution) := do
  let platform ← .platform
  let context := Template.Library.contextOf b.coordinates ++
    [("native_library".toList, .text (Native.fileName platform (libraryName b)))]
  return [.ofText (libraryPath b.coordinates) (← b.templates.render "kotlin/Library.kt" context)]

def kotlin : Plugin := ⟨"jni_cli.plugins.bundled.kotlin", "jni_cli.plugins.bundled.kotlin",
  kotlinFiles⟩

def bundled : List Plugin := [gradle, kotlin]

end CrateScaffold.Plugin

import CrateScaffold.Text.Basic

/-!
The templates that come with the program, by name. A project may override any of them.
-/

namespace CrateScaffold.Template.Packaged

def page (ls : List String) : Text := Text.unlines (ls.map String.toList)

/-- A page is opened line by line, so that no line has to be decoded. -/
theorem page_ofList_cons (l : Text) (ls : List String) :
    page (String.ofList l :: ls) = l ++ '\n' :: page ls := by
  simp [page, Text.unlines]

def buildScript : Text := page [
  "/*",
  " * This file was generated by `jni_cli`",
  " *",
  " */",
  "",
  "plugins \x7b",
  "    // Apply the org.jetbrains.kotlin.jvm Plugin to add support for Kotlin.",
  "    id(\"org.jetbrains.kotlin.jvm\") version \"1.9.0\"",
  "    id(\"maven-publish\")",
  "",
  "    // Apply the java-library plugin for API and implementation separation.",
  "    `java-library`",
  "\x7d",
  "",
  "repositories \x7b",
  "    // Use Maven Central for resolving dependencies.",
  "    mavenCentral()",
  "    maven \x7b",
  "        url = uri(\"https://bio.informatik.uni-jena.de/repository/libs-release-oss/\")",
  "    \x7d",
  "\x7d",
  "",
  "dependencies \x7b",
  "    // This dependency is exported to consumers, that is to say found on their compile classpath.",
  "    implementation(\"cz.adamh:native-utils:1.0\")",
  "    api(\"org.apache.commons:commons-math3:3.6.1\")",
  "    // This dependency is used internally, and not exposed to consumers on their own compile",
  "    // classpath.",
  "    implementation(\"com.google.guava:guava:32.1.1-jre\")",
  "\x7d",
  "",
  "testing \x7b",
  "    suites \x7b",
  "        // Configure the built-in test suite",
  "        val test by",
  "                getting(JvmTestSuite::class) \x7b",
  "                    // Use Kotlin Test test framework",
  "                    useKotlinTest(\"1.9.0\")",
  "                \x7d",
  "    \x7d",
  "\x7d",
  "",
  "// Apply a specific Java toolchain to ease working on different environments.",
  "java \x7b toolchain \x7b languageVersion.set(JavaLanguageVersion.of(19)) \x7d \x7d",
  "",
  "publishing \x7b",
  "    publications \x7b",
  "        create<MavenPublication>(\"maven\") \x7b",
  "            groupId = \"\x7b\x7bgroup_id\x7d\x7d\"",
  "            artifactId = \"\x7b\x7bpackage_name\x7d\x7d\"",
  "            version = \"1.1\"",
  "",
  "            from(components[\"java\"])",
  "        \x7d",
  "    \x7d",
  "\x7d"]

def settings : Text := page [
  "/*",
  " * This file was generated by `jni_cli`",
  " *",
  " */",
  "",
  "rootProject.name = \"\x7b\x7bpackage_name\x7d\x7d\""]

def properties : Text := page [
  "# This file was generated by `jni_cli`",
  "kotlin.code.style=official",
  "org.gradle.jvmargs=-Xmx2g -Dfile.encoding=UTF-8"]

def wrapper : Text := page [
  "distributionBase=GRADLE_USER_HOME",
  "distributionPath=wrapper/dists",
  "distributionUrl=https\\://services.gradle.org/distributions/gradle-\x7b\x7bgradle_version\x7d\x7d-bin.zip",
  "networkTimeout=10000",
  "zipStoreBase=GRADLE_USER_HOME",
  "zipStorePath=wrapper/dists"]

def libraryObject : Text := page [
  "/*",
  " * This file was generated by `jni_cli`",
  " *",
  " */",
  "",
  "package \x7b\x7bproject_root\x7d\x7d",
  "",
  "import cz.adamh.utils.NativeUtils",
  "",
  "object Library \x7b",
  "    val CLEANER =",
  "        java.lang.ref.Cleaner.create()",
  "",
  "    init \x7b",
  "        NativeUtils.loadLibraryFromJar(\"/\x7b\x7bnative_library\x7d\x7d\")",
  "    \x7d",
  "\x7d"]

def all : List (List Text × Text) := [
  (["gradle", "build.gradle.kts"], buildScript),
  (["gradle", "settings.gradle.kts"], settings),
  (["gradle", "gradle.properties"], properties),
  (["gradle", "gradle-wrapper.properties"], wrapper),
  (["kotlin", "Library.kt"], libraryObject)]

end CrateScaffold.Template.Packaged

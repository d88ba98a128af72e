import ArtifactSearch.Entries
import ArtifactSearch.Text.Lower

/-!
# ArtifactSearch.IndexName

**Index names from file names.** A name is what the file name keeps after its
`.csv` extension and every character that is no ASCII letter or digit are gone.
Names of known artifact exports are then written in their canonical casing.
-/

namespace ArtifactSearch.IndexName

/-- Whether a character of an extension is the given lower-case letter, in
either case; the long s counts as an s. -/
def isExtensionLetter (letter c : Char) : Bool :=
  c.toLower = letter || (letter = 's' && c = 'ſ')

/-- The characters of a reversed file name behind its `.csv` extension; without
one, all of them. -/
def dropExtension : Text → Text
  | v :: s :: c :: '.' :: rest =>
    if isExtensionLetter 'v' v && isExtensionLetter 's' s && isExtensionLetter 'c' c then rest
    else v :: s :: c :: '.' :: rest
  | reversed => reversed

/-- A file name without a final `.csv` in any casing. -/
def stem (fileName : Text) : Text := (dropExtension fileName.reverse).reverse

/-- The ASCII letters and digits of a file name's stem. -/
def strip (fileName : Text) : Text := (stem fileName).filter Text.isAlphanumeric

/-- The canonical names of known artifact exports, under their lower-case form. -/
def known : Entries Text :=
  [
    ("autorun".toList, "AutoRun".toList),
    ("connecteddevices".toList, "ConnectedDevices".toList),
    ("defenderexclusions".toList, "DefenderExclusions".toList),
    ("dnscache".toList, "DNSCache".toList),
    ("drivers".toList, "Drivers".toList),
    ("installedsoftware".toList, "InstalledSoftware".toList),
    ("ipconfiguration".toList, "IPConfiguration".toList),
    ("localusers".toList, "LocalUsers".toList),
    ("networkshare".toList, "NetworkShare".toList),
    ("officeconnection".toList, "OfficeConnection".toList),
    ("opentcpconnection".toList, "OpenTCPConnection".toList),
    ("powershellhistory".toList, "PowerShellHistory".toList),
    ("process".toList, "Process".toList),
    ("remotelyopenedfiles".toList, "RemotelyOpenedFiles".toList),
    ("runningservices".toList, "RunningServices".toList),
    ("scheduledtasks".toList, "ScheduledTasks".toList),
    ("scheduledtasksruninfo".toList, "ScheduledTasksRunInfo".toList),
    ("securityevents".toList, "SecurityEvents".toList),
    ("shadowcopy".toList, "ShadowCopy".toList),
    ("smbshares".toList, "SMBShares".toList),
    ("win32regrunkey".toList, "Win32RegRunKey".toList)
  ]

/-- The name of the index of a file: the alias of its stripped name, looked up
in lower case, or the stripped name as it is written. -/
def normalizeBy (aliases : Entries Text) (fileName : Text) : Text :=
  (aliases.get? (Text.lower (strip fileName))).getD (strip fileName)

/-- The name of the index of a file, with the known artifact exports as
aliases. -/
def normalize (fileName : Text) : Text := normalizeBy known fileName

example : normalize "dns_cache.CSV".toList = "DNSCache".toList := by decide

end ArtifactSearch.IndexName

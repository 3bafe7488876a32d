/-!
# Zones of no region: fixed offsets and a few old common rules

Each entry is the name of a zone and its history: the first offset from universal time in seconds,
then every change as `instant:offset` (seconds since 1970 and seconds), and, for a zone that still
changes its clock each year, after a semicolon the first year of the yearly rule with its two
offsets and its two moments. `Presence.Zone.ofHistory?` reads the text.
-/

set_option autoImplicit false

namespace Presence.Zone

/-- Names and histories of the zones of no region: fixed offsets and a few old common rules. -/
def etcHistories : List (String × String) := [
  ("CET",
   "3600 -1693706400:7200 -1680483600:3600 -1663455600:7200 -1650150000:3600 -1632006000:7200 -1618700400:3600 -938905200:7200 -857257200:3600 -844556400:7200 -828226800:3600 -812502000:7200 -796777200:3600 -781052400:7200 -766623600:3600 228877200:7200 243997200:3600 260326800:7200 276051600:3600 291776400:7200 307501200:3600 323830800:7200 338950800:3600 354675600:7200 370400400:3600 386125200:7200 401850000:3600 417574800:7200 433299600:3600 449024400:7200 465354000:3600 481078800:7200 496803600:3600 512528400:7200 528253200:3600 543978000:7200 559702800:3600 575427600:7200 591152400:3600 606877200:7200 622602000:3600 638326800:7200 654656400:3600 670381200:7200 686106000:3600 701830800:7200 717555600:3600 733280400:7200 749005200:3600 764730000:7200 780454800:3600 796179600:7200 811904400:3600; 1996 3600 7200 3.5.0.7200 10.5.0.10800"),
  ("CST6CDT",
   "-21600 -1633276800:-18000 -1615136400:-21600 -1601827200:-18000 -1583686800:-21600 -880214400:-18000 -765392400:-21600 -84384000:-18000 -68662800:-21600 -52934400:-18000 -37213200:-21600 -21484800:-18000 -5763600:-21600 9964800:-18000 25686000:-21600 41414400:-18000 57740400:-21600 73468800:-18000 89190000:-21600 104918400:-18000 120639600:-21600 126691200:-18000 152089200:-21600 162374400:-18000 183538800:-21600 199267200:-18000 215593200:-21600 230716800:-18000 247042800:-21600 262771200:-18000 278492400:-21600 294220800:-18000 309942000:-21600 325670400:-18000 341391600:-21600 357120000:-18000 372841200:-21600 388569600:-18000 404895600:-21600 420019200:-18000 436345200:-21600 452073600:-18000 467794800:-21600 483523200:-18000 499244400:-21600 514972800:-18000 530694000:-21600 544608000:-18000 562143600:-21600 576057600:-18000 594198000:-21600 607507200:-18000 625647600:-21600 638956800:-18000 657097200:-21600 671011200:-18000 688546800:-21600 702460800:-18000 719996400:-21600 733910400:-18000 752050800:-21600 765360000:-18000 783500400:-21600 796809600:-18000 814950000:-21600 828864000:-18000 846399600:-21600 860313600:-18000 877849200:-21600 891763200:-18000 909298800:-21600 923212800:-18000 941353200:-21600 954662400:-18000 972802800:-21600 986112000:-18000 1004252400:-21600 1018166400:-18000 1035702000:-21600 1049616000:-18000 1067151600:-21600 1081065600:-18000 1099206000:-21600 1112515200:-18000 1130655600:-21600 1143964800:-18000 1162105200:-21600; 2007 -21600 -18000 3.2.0.7200 11.1.0.7200"),
  ("EET",
   "7200 228877200:10800 243997200:7200 260326800:10800 276051600:7200 291776400:10800 307501200:7200 323830800:10800 338950800:7200 354675600:10800 370400400:7200 386125200:10800 401850000:7200 417574800:10800 433299600:7200 449024400:10800 465354000:7200 481078800:10800 496803600:7200 512528400:10800 528253200:7200 543978000:10800 559702800:7200 575427600:10800 591152400:7200 606877200:10800 622602000:7200 638326800:10800 654656400:7200 670381200:10800 686106000:7200 701830800:10800 717555600:7200 733280400:10800 749005200:7200 764730000:10800 780454800:7200 796179600:10800 811904400:7200; 1996 7200 10800 3.5.0.10800 10.5.0.14400"),
  ("EST",
   "-18000"),
  ("EST5EDT",
   "-18000 -1633280400:-14400 -1615140000:-18000 -1601830800:-14400 -1583690400:-18000 -880218000:-14400 -765396000:-18000 -84387600:-14400 -68666400:-18000 -52938000:-14400 -37216800:-18000 -21488400:-14400 -5767200:-18000 9961200:-14400 25682400:-18000 41410800:-14400 57736800:-18000 73465200:-14400 89186400:-18000 104914800:-14400 120636000:-18000 126687600:-14400 152085600:-18000 162370800:-14400 183535200:-18000 199263600:-14400 215589600:-18000 230713200:-14400 247039200:-18000 262767600:-14400 278488800:-18000 294217200:-14400 309938400:-18000 325666800:-14400 341388000:-18000 357116400:-14400 372837600:-18000 388566000:-14400 404892000:-18000 420015600:-14400 436341600:-18000 452070000:-14400 467791200:-18000 483519600:-14400 499240800:-18000 514969200:-14400 530690400:-18000 544604400:-14400 562140000:-18000 576054000:-14400 594194400:-18000 607503600:-14400 625644000:-18000 638953200:-14400 657093600:-18000 671007600:-14400 688543200:-18000 702457200:-14400 719992800:-18000 733906800:-14400 752047200:-18000 765356400:-14400 783496800:-18000 796806000:-14400 814946400:-18000 828860400:-14400 846396000:-18000 860310000:-14400 877845600:-18000 891759600:-14400 909295200:-18000 923209200:-14400 941349600:-18000 954658800:-14400 972799200:-18000 986108400:-14400 1004248800:-18000 1018162800:-14400 1035698400:-18000 1049612400:-14400 1067148000:-18000 1081062000:-14400 1099202400:-18000 1112511600:-14400 1130652000:-18000 1143961200:-14400 1162101600:-18000; 2007 -18000 -14400 3.2.0.7200 11.1.0.7200"),
  ("Etc/GMT",
   "0"),
  ("Etc/GMT+1",
   "-3600"),
  ("Etc/GMT+10",
   "-36000"),
  ("Etc/GMT+11",
   "-39600"),
  ("Etc/GMT+12",
   "-43200"),
  ("Etc/GMT+2",
   "-7200"),
  ("Etc/GMT+3",
   "-10800"),
  ("Etc/GMT+4",
   "-14400"),
  ("Etc/GMT+5",
   "-18000"),
  ("Etc/GMT+6",
   "-21600"),
  ("Etc/GMT+7",
   "-25200"),
  ("Etc/GMT+8",
   "-28800"),
  ("Etc/GMT+9",
   "-32400"),
  ("Etc/GMT-1",
   "3600"),
  ("Etc/GMT-10",
   "36000"),
  ("Etc/GMT-11",
   "39600"),
  ("Etc/GMT-12",
   "43200"),
  ("Etc/GMT-13",
   "46800"),
  ("Etc/GMT-14",
   "50400"),
  ("Etc/GMT-2",
   "7200"),
  ("Etc/GMT-3",
   "10800"),
  ("Etc/GMT-4",
   "14400"),
  ("Etc/GMT-5",
   "18000"),
  ("Etc/GMT-6",
   "21600"),
  ("Etc/GMT-7",
   "25200"),
  ("Etc/GMT-8",
   "28800"),
  ("Etc/GMT-9",
   "32400"),
  ("Etc/UTC",
   "0"),
  ("HST",
   "-36000"),
  ("MET",
   "3600 -1693706400:7200 -1680483600:3600 -1663455600:7200 -1650150000:3600 -1632006000:7200 -1618700400:3600 -938905200:7200 -857257200:3600 -844556400:7200 -828226800:3600 -812502000:7200 -796777200:3600 -781052400:7200 -766623600:3600 228877200:7200 243997200:3600 260326800:7200 276051600:3600 291776400:7200 307501200:3600 323830800:7200 338950800:3600 354675600:7200 370400400:3600 386125200:7200 401850000:3600 417574800:7200 433299600:3600 449024400:7200 465354000:3600 481078800:7200 496803600:3600 512528400:7200 528253200:3600 543978000:7200 559702800:3600 575427600:7200 591152400:3600 606877200:7200 622602000:3600 638326800:7200 654656400:3600 670381200:7200 686106000:3600 701830800:7200 717555600:3600 733280400:7200 749005200:3600 764730000:7200 780454800:3600 796179600:7200 811904400:3600; 1996 3600 7200 3.5.0.7200 10.5.0.10800"),
  ("MST",
   "-25200"),
  ("MST7MDT",
   "-25200 -1633273200:-21600 -1615132800:-25200 -1601823600:-21600 -1583683200:-25200 -880210800:-21600 -765388800:-25200 -84380400:-21600 -68659200:-25200 -52930800:-21600 -37209600:-25200 -21481200:-21600 -5760000:-25200 9968400:-21600 25689600:-25200 41418000:-21600 57744000:-25200 73472400:-21600 89193600:-25200 104922000:-21600 120643200:-25200 126694800:-21600 152092800:-25200 162378000:-21600 183542400:-25200 199270800:-21600 215596800:-25200 230720400:-21600 247046400:-25200 262774800:-21600 278496000:-25200 294224400:-21600 309945600:-25200 325674000:-21600 341395200:-25200 357123600:-21600 372844800:-25200 388573200:-21600 404899200:-25200 420022800:-21600 436348800:-25200 452077200:-21600 467798400:-25200 483526800:-21600 499248000:-25200 514976400:-21600 530697600:-25200 544611600:-21600 562147200:-25200 576061200:-21600 594201600:-25200 607510800:-21600 625651200:-25200 638960400:-21600 657100800:-25200 671014800:-21600 688550400:-25200 702464400:-21600 720000000:-25200 733914000:-21600 752054400:-25200 765363600:-21600 783504000:-25200 796813200:-21600 814953600:-25200 828867600:-21600 846403200:-25200 860317200:-21600 877852800:-25200 891766800:-21600 909302400:-25200 923216400:-21600 941356800:-25200 954666000:-21600 972806400:-25200 986115600:-21600 1004256000:-25200 1018170000:-21600 1035705600:-25200 1049619600:-21600 1067155200:-25200 1081069200:-21600 1099209600:-25200 1112518800:-21600 1130659200:-25200 1143968400:-21600 1162108800:-25200; 2007 -25200 -21600 3.2.0.7200 11.1.0.7200"),
  ("PST8PDT",
   "-28800 -1633269600:-25200 -1615129200:-28800 -1601820000:-25200 -1583679600:-28800 -880207200:-25200 -765385200:-28800 -84376800:-25200 -68655600:-28800 -52927200:-25200 -37206000:-28800 -21477600:-25200 -5756400:-28800 9972000:-25200 25693200:-28800 41421600:-25200 57747600:-28800 73476000:-25200 89197200:-28800 104925600:-25200 120646800:-28800 126698400:-25200 152096400:-28800 162381600:-25200 183546000:-28800 199274400:-25200 215600400:-28800 230724000:-25200 247050000:-28800 262778400:-25200 278499600:-28800 294228000:-25200 309949200:-28800 325677600:-25200 341398800:-28800 357127200:-25200 372848400:-28800 388576800:-25200 404902800:-28800 420026400:-25200 436352400:-28800 452080800:-25200 467802000:-28800 483530400:-25200 499251600:-28800 514980000:-25200 530701200:-28800 544615200:-25200 562150800:-28800 576064800:-25200 594205200:-28800 607514400:-25200 625654800:-28800 638964000:-25200 657104400:-28800 671018400:-25200 688554000:-28800 702468000:-25200 720003600:-28800 733917600:-25200 752058000:-28800 765367200:-25200 783507600:-28800 796816800:-25200 814957200:-28800 828871200:-25200 846406800:-28800 860320800:-25200 877856400:-28800 891770400:-25200 909306000:-28800 923220000:-25200 941360400:-28800 954669600:-25200 972810000:-28800 986119200:-25200 1004259600:-28800 1018173600:-25200 1035709200:-28800 1049623200:-25200 1067158800:-28800 1081072800:-25200 1099213200:-28800 1112522400:-25200 1130662800:-28800 1143972000:-25200 1162112400:-28800; 2007 -28800 -25200 3.2.0.7200 11.1.0.7200"),
  ("WET",
   "0 228877200:3600 243997200:0 260326800:3600 276051600:0 291776400:3600 307501200:0 323830800:3600 338950800:0 354675600:3600 370400400:0 386125200:3600 401850000:0 417574800:3600 433299600:0 449024400:3600 465354000:0 481078800:3600 496803600:0 512528400:3600 528253200:0 543978000:3600 559702800:0 575427600:3600 591152400:0 606877200:3600 622602000:0 638326800:3600 654656400:0 670381200:3600 686106000:0 701830800:3600 717555600:0 733280400:3600 749005200:0 764730000:3600 780454800:0 796179600:3600 811904400:0; 1996 0 3600 3.5.0.3600 10.5.0.7200")]

end Presence.Zone

import RadarAim.Lib.Bytes

/-! The labels of items and vehicles, and the keywords by which a class is recognised (`resolve_item_info`,
    `resolve_item_from_actor_name`, `resolve_vehicle_name`, the tests of `classify_class`). -/

namespace RadarAim

def mentions (s : Str) (keywords : List String) : Bool := keywords.any fun k => strstr s (lit k)

/-- The cases of the outer `switch` of `resolve_item_info`: the label and the category of an item. -/
def itemCases : List (Int × String × UInt8) :=
  [(101001, "AKM", 1), (101002, "M16A4", 1), (101003, "SCAR-L", 1), (101004, "M416", 1), (101005, "Groza", 1),
   (101006, "AUG", 1), (101007, "QBZ", 1), (101008, "M762", 1), (101009, "Mk47", 1), (101010, "G36C", 1),
   (101011, "FAMAS", 1), (101012, "ACE32", 1), (101013, "HoneyBadger", 1), (102001, "UMP45", 1),
   (102002, "Micro Uzi", 1), (102003, "Vector", 1), (102004, "Tommy Gun", 1), (102005, "PP-19 Bizon", 1),
   (102007, "P90", 1), (103001, "Kar98k", 1), (103002, "M24", 1), (103003, "AWM", 1), (103004, "SKS", 1),
   (103005, "VSS", 1), (103006, "Mini14", 1), (103007, "Mk14", 1), (103008, "Win94", 1), (103009, "SLR", 1),
   (103010, "QBU", 1), (103011, "Mosin", 1), (103012, "AMR", 1), (103013, "Mk12", 1), (104001, "S686", 1),
   (104002, "S1897", 1), (104003, "S12K", 1), (104004, "DBS", 1), (105001, "M249", 1), (105002, "DP-28", 1),
   (105010, "MG3", 1), (501001, "Helmet L1", 2), (501002, "Helmet L2", 2), (501003, "Helmet L3", 2),
   (501006, "Helmet L3", 2), (502001, "Vest L1", 2), (502002, "Vest L2", 2), (502003, "Vest L3", 2),
   (503001, "Bag L1", 2), (503002, "Bag L2", 2), (503003, "Bag L3", 2), (601001, "Bandage", 3),
   (601002, "FirstAid", 3), (601003, "MedKit", 3), (601004, "EnergyDrink", 3), (601005, "Painkiller", 3),
   (601006, "Adrenaline", 3), (602001, "Frag Grenade", 5), (602002, "Smoke", 5), (602003, "Molotov", 5),
   (602004, "Stun Grenade", 5), (603001, "Flare Gun", 5), (504001, "Air Drop", 5), (504002, "Player Crate", 5),
   (203001, "RedDot", 4), (203002, "Holo", 4), (203003, "2x Scope", 4), (203004, "4x Scope", 4),
   (203005, "3x Scope", 4), (203014, "6x Scope", 4), (203015, "8x Scope", 4), (301001, "5.56 Ammo", 4),
   (302001, "7.62 Ammo", 4), (303001, ".300 Mag", 4), (304001, "9mm Ammo", 4), (305001, ".45 Ammo", 4),
   (201009, "AR Suppressor", 4), (201010, "SR Suppressor", 4), (201011, "AR Compensator", 4),
   (201012, "SR Compensator", 4), (204009, "AR Ext.QuickMag", 4), (204010, "SR Ext.QuickMag", 4)]

/-- The cases of the inner `switch`, over `item_id / 1000`. -/
def itemPrefixCases : List (Int × String × UInt8) :=
  [(101, "Assault Rifle", 1), (102, "SMG", 1), (103, "Sniper", 1), (104, "Shotgun", 1), (105, "LMG", 1),
   (106, "Pistol", 1), (107, "Special Weapon", 1), (108, "Special Weapon", 1), (201, "Muzzle", 4),
   (202, "Grip", 4), (203, "Scope", 4), (204, "Magazine", 4), (205, "Stock", 4), (301, "5.56 Ammo", 4),
   (302, "7.62 Ammo", 4), (303, ".300 Mag", 4), (304, "9mm Ammo", 4), (305, ".45 Ammo", 4),
   (306, "12 Gauge", 4), (307, "Bolt / Arrow", 4), (501, "Helmet", 2), (502, "Armor Vest", 2),
   (503, "Backpack", 2), (504, "Player Crate", 5), (601, "Medicine", 3), (602, "Throwable", 5),
   (603, "Flare Gun", 5), (605, "Shop Token", 5)]

def resolveItemInfo (itemId : Int) (max : Nat) : Str × UInt8 :=
  let row := ((itemCases.lookup itemId).or (itemPrefixCases.lookup (itemId.tdiv 1000))).getD ("Loot Crate", 5)
  (snprintf max (lit row.1), row.2)

/-- The tests of `resolve_item_from_actor_name`, in order. -/
def actorNameRows : List (List String × String × UInt8) :=
  [(["Smoke"], "Smoke", 5), (["Grenade", "Frag"], "Frag Grenade", 5), (["Burn", "Molotov"], "Molotov", 5),
   (["Flash", "Stun"], "Stun Grenade", 5), (["Flare"], "Flare Gun", 5), (["M416"], "M416", 1),
   (["AKM"], "AKM", 1), (["AWM"], "AWM", 1), (["M24"], "M24", 1), (["Kar98"], "Kar98k", 1),
   (["Groza"], "Groza", 1), (["AUG"], "AUG", 1), (["SCAR"], "SCAR-L", 1), (["M762"], "M762", 1),
   (["Mk14"], "Mk14", 1), (["Mini14"], "Mini14", 1), (["SKS"], "SKS", 1), (["SLR"], "SLR", 1),
   (["VSS"], "VSS", 1), (["UMP"], "UMP45", 1), (["Vector"], "Vector", 1), (["Uzi"], "Micro Uzi", 1),
   (["Tommy"], "Tommy Gun", 1), (["Bizon"], "PP-19 Bizon", 1), (["P90"], "P90", 1), (["DBS"], "DBS", 1),
   (["S12K"], "S12K", 1), (["S686"], "S686", 1), (["S1897"], "S1897", 1), (["DP28", "DP-28"], "DP-28", 1),
   (["M249"], "M249", 1), (["MG3"], "MG3", 1), (["Helmet_3", "Helmet_Lv3"], "Helmet L3", 2),
   (["Helmet_2", "Helmet_Lv2"], "Helmet L2", 2), (["Helmet_1", "Helmet_Lv1"], "Helmet L1", 2),
   (["Armor_3", "Vest_3"], "Vest L3", 2), (["Armor_2", "Vest_2"], "Vest L2", 2),
   (["Armor_1", "Vest_1"], "Vest L1", 2), (["Bag_3", "Backpack_3"], "Bag L3", 2),
   (["Bag_2", "Backpack_2"], "Bag L2", 2), (["Bag_1", "Backpack_1"], "Bag L1", 2),
   (["FirstAid"], "FirstAid", 3), (["MedKit"], "MedKit", 3), (["Drink"], "EnergyDrink", 3),
   (["Pain"], "Painkiller", 3), (["Adrenaline"], "Adrenaline", 3), (["Bandage"], "Bandage", 3),
   (["8x", "Scope8x"], "8x Scope", 4), (["6x", "Scope6x"], "6x Scope", 4), (["4x", "Scope4x"], "4x Scope", 4),
   (["3x", "Scope3x"], "3x Scope", 4), (["2x", "Scope2x"], "2x Scope", 4), (["RedDot"], "RedDot", 4),
   (["Holo"], "Holo", 4), (["556", "5.56"], "5.56 Ammo", 4), (["762", "7.62"], "7.62 Ammo", 4),
   (["300", "Magnum"], ".300 Mag", 4), (["9mm"], "9mm Ammo", 4), (["45"], ".45 Ammo", 4),
   (["AirDrop", "DropBox"], "Air Drop", 5),
   (["DeadBox", "PlayerDeadBox", "PickUpListWrapperActor"], "Player Crate", 5)]

/-- The label and the category for the name of an actor; `none` leaves both as they are. -/
def resolveItemFromActorName (aname : Str) (max : Nat) : Option (Str × UInt8) :=
  (actorNameRows.find? fun row => mentions aname row.1).map fun row => (snprintf max (lit row.2.1), row.2.2)

/-- The tests of `resolve_vehicle_name`, in order. -/
def vehicleRows : List (List String × String) :=
  [(["Airplane", "AirDropPlane", "C130", "Plane"], "Airplane"), (["Glider", "MotorGlider"], "Glider"),
   (["Helicopter", "Heli"], "Helicopter"), (["Buggy"], "Buggy"), (["Dacia"], "Dacia"), (["UAZ", "Uaz"], "UAZ"),
   (["Motorcycle", "Bike"], "Motorcycle"), (["Scooter"], "Scooter"), (["Tuk"], "TukTuk"),
   (["Boat", "Aqua"], "Boat"), (["PickUp"], "PickUp"), (["Bus", "Van"], "Minibus"), (["Mirado"], "Mirado"),
   (["BRDM"], "BRDM")]

def resolveVehicleName (clsName : Str) (max : Nat) : Str :=
  match vehicleRows.find? fun row => mentions clsName row.1 with
  | some row => snprintf max (lit row.2)
  | none => snprintf max (lit "Vehicle")

end RadarAim
